import GwzCore.Lib.Lines

/-!
# Commit markers

The commits of one workspace operation end in a block of lines that names the operation. The
writer appends the block to the user's message, and the log reads the key by which it coalesces
commits from there. A message that claims a key anywhere else has none.
-/
namespace GwzCore.CommitLog
open Lines List

/-- A message is read as bytes, whatever its encoding. -/
abbrev Bytes := List UInt8

def ascii (text : String) : Bytes := text.toList.map fun c => c.toNat.toUInt8

def newline : UInt8 := 10

def gwzCommitId : Bytes := ascii "GWZ-Commit-ID"
def gwzCommitIdLine : Bytes := ascii "GWZ-Commit-ID: "
def gwzWorkspaceIdLine : Bytes := ascii "GWZ-Workspace-ID: "
def gwzOriginUrlHashLine : Bytes := ascii "GWZ-Origin-URL-Hash: sha256:"

/-! ### The writer -/

structure CommitMarkerContext where
  gwzCommitId : Bytes
  workspaceId : Bytes
  originUrlHash : Option Bytes

namespace CommitMarkerContext

/-- What is appended to a message after an empty line. -/
def block (context : CommitMarkerContext) : Bytes :=
  ascii "GWZ-Commit-ID: " ++ context.gwzCommitId ++
    ascii "\nGWZ-Workspace-ID: " ++ context.workspaceId ++
    match context.originUrlHash with
    | some hash => ascii "\nGWZ-Origin-URL-Hash: " ++ hash
    | none => []

def commitMessage (context : CommitMarkerContext) (message : Bytes) : Bytes :=
  message.rdropWhile (· = newline) ++ ascii "\n\n" ++ context.block

end CommitMarkerContext

/-! ### The reader -/

inductive MarkerIdentity where
  | unmarked
  | key (id : Bytes)
  | unusable
  deriving DecidableEq

def toAsciiLowercase (byte : UInt8) : UInt8 := if 65 ≤ byte ∧ byte ≤ 90 then byte + 32 else byte

/-- A decimal digit or one of the letters `a` to `f`. -/
def isLowerHex (byte : UInt8) : Bool := 48 ≤ byte && byte ≤ 57 || 97 ≤ byte && byte ≤ 102

/-- The line begins with the name of the key, in either case, and with what may follow a name. -/
def markerShapedClaim (line : Bytes) : Bool :=
  (line.take gwzCommitId.length).map toAsciiLowercase = gwzCommitId.map toAsciiLowercase &&
    (line.drop gwzCommitId.length).head?.all fun byte => byte ∈ ascii ":= \t"

def canonicalUuidV7 (value : Bytes) : Bool :=
  value.length = 36 && value[8]? = some 45 && value[13]? = some 45 && value[14]? = some 55 &&
    value[18]? = some 45 && (value[19]?).any (· ∈ ascii "89ab") && value[23]? = some 45 &&
    value.zipIdx.all fun (byte, index) => index ∈ [8, 13, 18, 23] || isLowerHex byte

def validOriginUrlHash (line : Bytes) : Bool :=
  (line.dropPrefix? gwzOriginUrlHashLine).any fun hash => hash.length = 64 && hash.all isLowerHex

def claims (message : Bytes) : List Bytes := (message.splitOn newline).filter markerShapedClaim

/-- The last paragraph of a message, without its final newline. -/
def lastBlock (message : Bytes) : Option Bytes :=
  (afterBoundary newline message).map fun tail => (tail.dropSuffix? [newline]).getD tail

/-- The key of the only claim of a message, which is the first line of its last paragraph. -/
def claimedKey (message claim : Bytes) : Option Bytes :=
  match (lastBlock message).map (·.splitOn newline) with
  | some (commitLine :: workspaceLine :: lines) =>
    match commitLine.dropPrefix? gwzCommitIdLine, workspaceLine.dropPrefix? gwzWorkspaceIdLine with
    | some marker, some workspaceId =>
      if commitLine = claim ∧ canonicalUuidV7 marker ∧ workspaceId ≠ [] ∧
          lines.length ≤ 1 ∧ lines.all validOriginUrlHash then
        some marker
      else
        none
    | _, _ => none
  | _ => none

def markerIdentity (message : Bytes) : MarkerIdentity :=
  match claims message with
  | [] => .unmarked
  | [claim] =>
    match claimedKey message claim with
    | some marker => .key marker
    | none => .unusable
  | _ => .unusable

/-! ### The block as lines -/

variable {context : CommitMarkerContext} {message front block final claim id : Bytes}

namespace CommitMarkerContext

/-- A context as the writer is given it: a canonical id, the id of a workspace on one line, and
the digest of an origin. -/
structure Valid (context : CommitMarkerContext) : Prop where
  canonical : canonicalUuidV7 context.gwzCommitId
  workspace : context.workspaceId ≠ [] ∧ newline ∉ context.workspaceId
  origin : ∀ hash ∈ context.originUrlHash, ∃ digits : Bytes,
    hash = ascii "sha256:" ++ digits ∧ digits.length = 64 ∧ digits.all isLowerHex

def commitLine (context : CommitMarkerContext) : Bytes := gwzCommitIdLine ++ context.gwzCommitId

def lines (context : CommitMarkerContext) : List Bytes :=
  context.commitLine :: (gwzWorkspaceIdLine ++ context.workspaceId) ::
    (context.originUrlHash.map (ascii "GWZ-Origin-URL-Hash: " ++ ·)).toList

lemma block_eq (context : CommitMarkerContext) :
    context.block = [newline].intercalate context.lines := by
  have hworkspace : ascii "\nGWZ-Workspace-ID: " = newline :: gwzWorkspaceIdLine := by decide
  have horigin : ascii "\nGWZ-Origin-URL-Hash: " = newline :: ascii "GWZ-Origin-URL-Hash: " := by
    decide
  obtain ⟨id, workspace, _ | hash⟩ := context <;>
    simp [block, lines, commitLine, gwzCommitIdLine, hworkspace, horigin, intercalate_cons_cons]

end CommitMarkerContext

lemma newline_not_mem_of_isLowerHex {digits : Bytes} (h : digits.all isLowerHex) :
    newline ∉ digits := by
  intro hmem
  exact absurd (all_eq_true.mp h _ hmem) (by decide)

lemma newline_not_mem_of_canonical (h : canonicalUuidV7 id) : newline ∉ id := by
  simp only [canonicalUuidV7, Bool.and_eq_true, decide_eq_true_eq, all_eq_true] at h
  obtain ⟨⟨⟨⟨⟨⟨⟨-, h8⟩, h13⟩, -⟩, h18⟩, -⟩, h23⟩, hdigits⟩ := h
  intro hmem
  obtain ⟨index, hindex⟩ := getElem?_of_mem hmem
  have hdigit := hdigits (newline, index) (mem_zipIdx_iff_getElem?.mpr hindex)
  -- a hyphen stands at each place that is no digit
  rcases Bool.or_eq_true .. ▸ hdigit with hplace | hdigit
  · simp only [decide_eq_true_eq, mem_cons, not_mem_nil, or_false] at hplace
    rcases hplace with rfl | rfl | rfl | rfl <;> simp_all [newline]
  · exact absurd (show isLowerHex newline from hdigit) (by decide)

namespace CommitMarkerContext

lemma Valid.lines (h : context.Valid) :
    ∀ line ∈ context.lines, line ≠ [] ∧ newline ∉ line := by
  have hcommit : newline ∉ gwzCommitIdLine := by decide
  have hworkspace : newline ∉ gwzWorkspaceIdLine := by decide
  have horigin : newline ∉ ascii "GWZ-Origin-URL-Hash: " := by decide
  have hdigest : newline ∉ ascii "sha256:" := by decide
  have hid := newline_not_mem_of_canonical h.canonical
  simp only [CommitMarkerContext.lines, forall_mem_cons, commitLine, mem_append, not_or]
  refine ⟨⟨append_ne_nil_of_left_ne_nil (by decide) _, hcommit, hid⟩,
    ⟨append_ne_nil_of_left_ne_nil (by decide) _, hworkspace, h.workspace.2⟩, ?_⟩
  intro line hline
  obtain ⟨hash, hhash, rfl⟩ := Option.map_eq_some_iff.mp (Option.mem_toList.mp hline)
  obtain ⟨digits, rfl, -, hdigits⟩ := h.origin hash hhash
  have hdigits := newline_not_mem_of_isLowerHex hdigits
  exact ⟨append_ne_nil_of_left_ne_nil (by decide) _, by simp [horigin, hdigest, hdigits]⟩

lemma claims_lines (context : CommitMarkerContext) :
    context.lines.filter markerShapedClaim = [context.commitLine] := by
  obtain ⟨id, workspace, _ | hash⟩ := context <;> rfl

end CommitMarkerContext

lemma claims_append_newline (x y : Bytes) : claims (x ++ newline :: y) = claims x ++ claims y := by
  rw [claims, splitOn_append_cons, filter_append]
  rfl

lemma claims_rdropWhile (message : Bytes) :
    claims (message.rdropWhile (· = newline)) = claims message := by
  induction message using reverseRecOn with
  | nil => rfl
  | append_singleton message byte ih =>
    rw [rdropWhile_concat]
    split_ifs with hbyte
    · rw [ih, of_decide_eq_true hbyte, claims_append_newline]
      exact (append_nil _).symm
    · rfl

/-! ### Messages that end in a block -/

/-- The message ends in the block of a valid context, with or without one final newline. -/
structure Written (context : CommitMarkerContext) (front message : Bytes) : Prop where
  valid : context.Valid
  ends : ∃ final, (final = [] ∨ final = [newline]) ∧
    message = front ++ ascii "\n\n" ++ context.block ++ final

lemma append_boundary :
    front ++ ascii "\n\n" ++ block ++ final = front ++ newline :: newline :: (block ++ final) := by
  have hboundary : ascii "\n\n" = [newline, newline] := by decide
  simp [hboundary]

lemma Written.commitMessage (h : context.Valid) (message : Bytes)
    (hfinal : final = [] ∨ final = [newline]) :
    Written context (message.rdropWhile (· = newline)) (context.commitMessage message ++ final) :=
  ⟨h, final, hfinal, rfl⟩

lemma Written.splitOn_block (h : Written context front message) :
    context.block.splitOn newline = context.lines := by
  rw [context.block_eq]
  refine splitOn_intercalate newline (fun line hline => (h.valid.lines line hline).2) ?_
  exact cons_ne_nil _ _

lemma Written.claims_eq (h : Written context front message) :
    claims message = claims front ++ [context.commitLine] := by
  have hblock : claims context.block = [context.commitLine] := by
    rw [claims, h.splitOn_block, context.claims_lines]
  obtain ⟨final, hfinal, rfl⟩ := h.ends
  have hends : claims (context.block ++ final) = [context.commitLine] := by
    rcases hfinal with rfl | rfl
    · rw [append_nil, hblock]
    · rw [claims_append_newline, hblock]
      rfl
  rw [append_boundary, claims_append_newline, ← hends]
  exact congrArg _ (claims_append_newline [] _)

lemma Written.lastBlock_eq (h : Written context front message) :
    lastBlock message = some context.block := by
  obtain ⟨final, hfinal, rfl⟩ := h.ends
  have hboundary : afterBoundary newline (context.block ++ final) = none := by
    rw [context.block_eq]
    exact afterBoundary_intercalate h.valid.lines hfinal
  have hhead : (context.block ++ final).head? = some 71 := rfl
  have hlast : context.block.dropSuffix? [newline] = none := by
    refine Option.eq_none_iff_forall_ne_some.mpr fun rest hrest => ?_
    obtain ⟨_, hblock, hnewline⟩ := dropSuffix?_eq_some_iff.mp hrest
    rw [eq_of_beq hnewline, context.block_eq] at hblock
    exact intercalate_ne_concat h.valid.lines hblock
  rw [lastBlock, append_boundary, afterBoundary_append hboundary (by simp [hhead, newline])]
  rcases hfinal with rfl | rfl
  · rw [append_nil, Option.map_some, hlast]
    rfl
  · have hnewline : (context.block ++ [newline]).dropSuffix? [newline] = some context.block :=
      dropSuffix?_eq_some_iff.mpr ⟨_, rfl, beq_self_eq_true _⟩
    rw [Option.map_some, hnewline]
    rfl

lemma dropPrefix?_eq_some {start line rest : Bytes} :
    line.dropPrefix? start = some rest ↔ line = start ++ rest := by
  simp [dropPrefix?_eq_some_iff]

lemma validOriginUrlHash_iff {line : Bytes} :
    validOriginUrlHash line ↔ ∃ digits : Bytes,
      line = ascii "GWZ-Origin-URL-Hash: " ++ (ascii "sha256:" ++ digits) ∧
        digits.length = 64 ∧ digits.all isLowerHex := by
  have hline : gwzOriginUrlHashLine = ascii "GWZ-Origin-URL-Hash: " ++ ascii "sha256:" := by decide
  simp [validOriginUrlHash, Option.any_eq_true, dropPrefix?_eq_some, hline]

lemma claimedKey_eq_some_iff : claimedKey message claim = some id ↔
    ∃ block workspace lines, lastBlock message = some block ∧
      block.splitOn newline = claim :: (gwzWorkspaceIdLine ++ workspace) :: lines ∧
      claim = gwzCommitIdLine ++ id ∧ canonicalUuidV7 id ∧ workspace ≠ [] ∧
      lines.length ≤ 1 ∧ lines.all validOriginUrlHash := by
  constructor
  · intro h
    unfold claimedKey at h
    split at h
    case h_2 => cases h
    case h_1 hlines =>
      obtain ⟨block, hblock, hlines⟩ := Option.map_eq_some_iff.mp hlines
      split at h
      case h_2 => cases h
      case h_1 hmarker hworkspace =>
        split_ifs at h with hvalid
        cases h
        rw [dropPrefix?_eq_some.mp hmarker, dropPrefix?_eq_some.mp hworkspace] at hlines
        obtain ⟨rfl, hvalid⟩ := hvalid
        rw [dropPrefix?_eq_some.mp hmarker]
        exact ⟨block, _, _, hblock, hlines, rfl, hvalid⟩
  · rintro ⟨block, workspace, lines, hblock, hlines, rfl, hvalid⟩
    have hmarker := dropPrefix?_eq_some.mpr (rfl : gwzCommitIdLine ++ id = _)
    have hworkspace := dropPrefix?_eq_some.mpr (rfl : gwzWorkspaceIdLine ++ workspace = _)
    rw [claimedKey, hblock, Option.map_some, hlines]
    simp only [hmarker, hworkspace]
    exact if_pos ⟨trivial, hvalid⟩

lemma Written.claimedKey_eq (h : Written context front message) :
    claimedKey message context.commitLine = some context.gwzCommitId := by
  refine claimedKey_eq_some_iff.mpr ⟨_, _, _, h.lastBlock_eq, h.splitOn_block, rfl,
    h.valid.canonical, h.valid.workspace.1, ?_, all_eq_true.mpr fun line hline => ?_⟩
  · cases context.originUrlHash <;> simp
  · obtain ⟨hash, hhash, rfl⟩ := Option.map_eq_some_iff.mp (Option.mem_toList.mp hline)
    obtain ⟨digits, rfl, hdigits⟩ := h.valid.origin hash hhash
    exact validOriginUrlHash_iff.mpr ⟨digits, rfl, hdigits⟩

lemma exists_of_lastBlock (h : lastBlock message = some block) :
    ∃ front final, (final = [] ∨ final = [newline]) ∧
      message = front ++ ascii "\n\n" ++ block ++ final := by
  obtain ⟨tail, htail, rfl⟩ := Option.map_eq_some_iff.mp h
  obtain ⟨front, rfl⟩ := eq_append_of_afterBoundary htail
  simp only [append_boundary]
  cases hdrop : tail.dropSuffix? [newline] with
  | none => exact ⟨front, [], .inl rfl, by simp⟩
  | some block =>
    obtain ⟨_, rfl, hnewline⟩ := dropSuffix?_eq_some_iff.mp hdrop
    exact ⟨front, _, .inr (eq_of_beq hnewline), rfl⟩

lemma exists_written_of_claimedKey (h : claimedKey message claim = some id) :
    ∃ context front, Written context front message ∧ context.gwzCommitId = id ∧
      context.commitLine = claim := by
  obtain ⟨block, workspace, lines, hblock, hlines, rfl, hcanonical, hworkspace, hone, horigin⟩ :=
    claimedKey_eq_some_iff.mp h
  obtain ⟨front, final, hfinal, rfl⟩ := exists_of_lastBlock hblock
  have hnewline : newline ∉ workspace := by
    have hline : gwzWorkspaceIdLine ++ workspace ∈ block.splitOn newline := by simp [hlines]
    exact fun hmem => not_mem_of_mem_splitOn hline (mem_append_right _ hmem)
  -- the context is read back from the lines
  obtain ⟨origin, hmore, hvalid⟩ : ∃ origin : Option Bytes,
      lines = (origin.map (ascii "GWZ-Origin-URL-Hash: " ++ ·)).toList ∧
      ∀ hash ∈ origin, ∃ digits : Bytes, hash = ascii "sha256:" ++ digits ∧
        digits.length = 64 ∧ digits.all isLowerHex := by
    match lines with
    | [] => exact ⟨none, rfl, by simp⟩
    | [line] =>
      obtain ⟨digits, rfl, hdigits⟩ :=
        validOriginUrlHash_iff.mp (all_eq_true.mp horigin line mem_cons_self)
      exact ⟨some _, rfl, by simpa using hdigits⟩
  refine ⟨⟨id, workspace, origin⟩, front,
    ⟨⟨hcanonical, ⟨hworkspace, hnewline⟩, hvalid⟩, final, hfinal, ?_⟩, rfl, rfl⟩
  have hsame := intercalate_splitOn newline ▸ congrArg [newline].intercalate hlines
  rw [CommitMarkerContext.block_eq, hsame, hmore]
  rfl

/-- A message that the writer builds has the key of its context, unless the user's own text claims
one. A key is only read from a message that ends in the block that the writer appends for it, and
that has no other claim. -/
theorem markerIdentity_exact :
    (∀ (context : CommitMarkerContext) message final, context.Valid →
      (final = [] ∨ final = [newline]) → markerIdentity (context.commitMessage message ++ final) =
        if claims message = [] then .key context.gwzCommitId else .unusable) ∧
    ∀ message id, markerIdentity message = .key id →
      ∃ context front, Written context front message ∧ context.gwzCommitId = id ∧
        claims message = [context.commitLine] := by
  refine ⟨fun context message final hvalid hfinal => ?_, fun message id hkey => ?_⟩
  · have hwritten := Written.commitMessage hvalid message hfinal
    rw [markerIdentity, hwritten.claims_eq, claims_rdropWhile]
    cases claims message with
    | nil => simp [hwritten.claimedKey_eq]
    | cons claim others => cases others <;> simp
  · unfold markerIdentity at hkey
    split at hkey
    case h_2 claim hclaims =>
      split at hkey
      case h_1 marker hmarker =>
        obtain ⟨context, front, hwritten, hid, rfl⟩ := exists_written_of_claimedKey hmarker
        cases hkey
        exact ⟨context, front, hwritten, hid, hclaims⟩
      case h_2 => cases hkey
    all_goals cases hkey

/-- The marker of a release. -/
def release : CommitMarkerContext :=
  ⟨ascii "01890a5d-ac96-774b-bcce-b302099a8057", ascii "tools", none⟩

theorem markerIdentity_exact_release :
    markerIdentity (release.commitMessage (ascii "Release 2") ++ [newline]) =
        .key release.gwzCommitId ∧
      ∃ context front,
        Written context front (release.commitMessage (ascii "Release 2") ++ [newline]) ∧
          context.gwzCommitId = release.gwzCommitId ∧
          claims (release.commitMessage (ascii "Release 2") ++ [newline]) =
            [context.commitLine] := by
  have hvalid : release.Valid := ⟨by decide, by decide, nofun⟩
  have hkey := markerIdentity_exact.1 release (ascii "Release 2") [newline] hvalid (.inr rfl)
  rw [if_pos (by decide)] at hkey
  exact ⟨hkey, markerIdentity_exact.2 _ _ hkey⟩

end GwzCore.CommitLog
