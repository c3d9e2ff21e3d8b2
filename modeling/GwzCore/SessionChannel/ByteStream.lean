import GwzCore.SessionContract

/-!
# Frames over a byte stream

A frame is written as its size, four little-endian bytes that count the tag and
the body, then the tag and the body. The reader checks the size before it reads
the tag, and the tag before it makes room for the body. A stream may answer a
read with fewer bytes than asked for, or interrupt it; what a stream gives is a
plan of such answers, and what the reader returns does not depend on the plan.
-/
namespace GwzCore.SessionChannel
open List UInt8

open SessionContract

variable {frames : List Frame} {frame : Frame}

/-- One answer of the underlying reader: at most `more + 1` bytes, or a failure. -/
inductive ReadAnswer where
  | chunk (more : ℕ)
  | failed (kind : ErrorKind)
  deriving DecidableEq

/-- The bytes still to come and the reader's next answers. A reader past its plan
gives as much as it is asked for, so a plan fixes how any finite run of reads is
split. -/
structure Stream where
  bytes : Bytes
  plan : List ReadAnswer

namespace Stream

variable {stream rest : Stream} {bytes chunk : Bytes} {room : ℕ} {kind : ErrorKind}

/-- One read into a buffer with `room` bytes; no bytes mean the stream's end. -/
def read (stream : Stream) (room : ℕ) : Except ErrorKind Bytes × Stream :=
  match stream.plan with
  | [] => (.ok (stream.bytes.take room), ⟨stream.bytes.drop room, []⟩)
  | .chunk more :: plan =>
    (.ok (stream.bytes.take (min room (more + 1))),
      ⟨stream.bytes.drop (min room (more + 1)), plan⟩)
  | .failed kind :: plan => (.error kind, ⟨stream.bytes, plan⟩)

/-- What every read but the last lowers. -/
def remaining (stream : Stream) : ℕ := stream.plan.length + stream.bytes.length

lemma read_remaining_of_ok (h : stream.read room = (.ok chunk, rest)) :
    rest.remaining + chunk.length ≤ stream.remaining := by
  obtain ⟨bytes, plan⟩ := stream
  unfold read at h
  split at h <;> simp only [Prod.mk.injEq, Except.ok.injEq, reduceCtorEq, false_and] at h
  all_goals
    rename_i hplan
    obtain rfl : plan = _ := hplan
    obtain ⟨rfl, rfl⟩ := h
    simp only [remaining, length_take, length_drop, length_cons, length_nil]
    omega

lemma read_remaining_of_error (h : stream.read room = (.error kind, rest)) :
    rest.remaining < stream.remaining := by
  obtain ⟨bytes, plan⟩ := stream
  unfold read at h
  split at h <;> simp only [Prod.mk.injEq, Except.error.injEq, reduceCtorEq, false_and] at h
  rename_i hplan
  obtain rfl : plan = _ := hplan
  obtain ⟨-, rfl⟩ := h
  simp [remaining]

/-- Reads until `room` bytes are read or the stream ends, retrying interruptions. -/
def fill (stream : Stream) (room : ℕ) : Except Closed Bytes × Stream :=
  if room = 0 then (.ok [], stream)
  else
    match _h : stream.read room with
    | (.ok [], rest) => (.ok [], rest)
    | (.ok (byte :: chunk), rest) =>
      match fill rest (room - (byte :: chunk).length) with
      | (.ok more, after) => (.ok (byte :: chunk ++ more), after)
      | (.error reason, after) => (.error reason, after)
    | (.error .interrupted, rest) => fill rest room
    | (.error kind, rest) => (.error (.stream kind), rest)
termination_by stream.remaining
decreasing_by
  · have := read_remaining_of_ok _h
    simp only [length_cons] at this
    omega
  · exact read_remaining_of_error _h

/-- Filling uses up what it gives. -/
lemma fill_remaining (stream : Stream) (room : ℕ) :
    (stream.fill room).2.remaining ≤ stream.remaining ∧
      ∀ chunk, (stream.fill room).1 = .ok chunk →
        (stream.fill room).2.remaining + chunk.length ≤ stream.remaining := by
  fun_induction fill stream room with
  | case1 => simp
  | case2 stream room hroom rest hread =>
    have := read_remaining_of_ok hread
    simpa using this
  | case3 stream room hroom byte chunk rest hread more after hmore ih =>
    have hread := read_remaining_of_ok hread
    rw [hmore] at ih
    have hmore : after.remaining + more.length ≤ rest.remaining := ih.2 more rfl
    simp only [length_cons] at hread
    refine ⟨by simp only; omega, ?_⟩
    intro whole hwhole
    obtain rfl := Except.ok.inj hwhole
    simp only [length_append, length_cons]
    omega
  | case4 stream room hroom byte chunk rest hread reason after hmore ih =>
    have hread := read_remaining_of_ok hread
    rw [hmore] at ih
    refine ⟨le_trans ih.1 (by omega), ?_⟩
    intro whole hwhole
    cases hwhole
  | case5 stream room hroom rest hread ih =>
    have hread := read_remaining_of_error hread
    refine ⟨by omega, fun chunk hchunk => ?_⟩
    have := ih.2 chunk hchunk
    omega
  | case6 stream room hroom kind rest hkind hread =>
    have hread := read_remaining_of_error hread
    refine ⟨by simp only; omega, ?_⟩
    intro whole hwhole
    cases hwhole

/-- The stream has exactly `bytes` to give and fails no read but by interrupting it. -/
structure Holds (stream : Stream) (bytes : Bytes) : Prop where
  bytes_eq : stream.bytes = bytes
  steady : ∀ kind, .failed kind ∈ stream.plan → kind = .interrupted

/-- A read of a steady stream gives the next bytes, some if there are any, or is
interrupted. -/
lemma Holds.read (h : stream.Holds bytes) (hroom : room ≠ 0) {answer : Except ErrorKind Bytes}
    (hread : stream.read room = (answer, rest)) :
    (∃ chunk more, answer = .ok chunk ∧ bytes = chunk ++ more ∧ rest.Holds more ∧
      chunk.length ≤ room ∧ (chunk = [] → more = [])) ∨
    answer = .error .interrupted ∧ rest.Holds bytes := by
  have htakes : ∀ taken, 0 < taken → bytes.take taken = [] → bytes.drop taken = [] := by
    intro taken htaken hnone
    rcases take_eq_nil_iff.mp hnone with hzero | hempty
    · omega
    · rw [hempty, drop_nil]
  obtain ⟨given, plan⟩ := stream
  obtain ⟨rfl, hsteady⟩ := h
  cases plan with
  | nil =>
    cases hread
    exact .inl ⟨_, _, rfl, (take_append_drop ..).symm, ⟨rfl, hsteady⟩, length_take_le ..,
      htakes room (by omega)⟩
  | cons planned plan =>
    have hrest : ∀ kind, .failed kind ∈ plan → kind = .interrupted :=
      fun kind hmem => hsteady kind (mem_cons_of_mem _ hmem)
    cases planned with
    | chunk more =>
      cases hread
      refine .inl ⟨_, _, rfl, (take_append_drop ..).symm, ⟨rfl, hrest⟩, ?_, htakes _ (by omega)⟩
      exact le_trans (length_take_le ..) (min_le_left ..)
    | failed kind =>
      cases hread
      obtain rfl := hsteady kind mem_cons_self
      exact .inr ⟨rfl, rfl, hrest⟩

/-- However the reads are split, filling gives the next `room` bytes, or all there are. -/
lemma Holds.fill (h : stream.Holds bytes) (room : ℕ) :
    ∃ rest, stream.fill room = (.ok (bytes.take room), rest) ∧ rest.Holds (bytes.drop room) := by
  fun_induction Stream.fill stream room generalizing bytes with
  | case1 stream => exact ⟨stream, by simp, by simpa using h⟩
  | case2 stream room hroom rest hread =>
    -- the stream has ended
    obtain ⟨chunk, more, hchunk, rfl, hrest, -, hend⟩ | ⟨hnone, -⟩ := h.read hroom hread
    · cases hchunk
      obtain rfl := hend rfl
      exact ⟨rest, by simp, by simpa using hrest⟩
    · cases hnone
  | case3 stream room hroom byte chunk rest hread more after hmore ih =>
    obtain ⟨given, left, hchunk, rfl, hrest, hle, -⟩ | ⟨hnone, -⟩ := h.read hroom hread
    · cases hchunk
      obtain ⟨last, hfill, hlast⟩ := ih hrest
      cases hmore.symm.trans hfill
      refine ⟨after, ?_, ?_⟩
      · rw [take_append, take_of_length_le hle]
      · rwa [drop_append, drop_of_length_le hle, nil_append]
    · cases hnone
  | case4 stream room hroom byte chunk rest hread reason after hmore ih =>
    obtain ⟨given, left, -, -, hrest, -⟩ | ⟨hnone, -⟩ := h.read hroom hread
    · obtain ⟨last, hfill, -⟩ := ih hrest
      cases hmore.symm.trans hfill
    · cases hnone
  | case5 stream room hroom rest hread ih =>
    obtain ⟨given, left, hchunk, -⟩ | ⟨-, hrest⟩ := h.read hroom hread
    · cases hchunk
    · exact ih hrest
  | case6 stream room hroom kind rest hkind hread =>
    obtain ⟨given, left, hchunk, -⟩ | ⟨hnone, -⟩ := h.read hroom hread
    · cases hchunk
    · exact absurd (Except.error.inj hnone) hkind

/-! ## Reading frames -/

/-- The four bytes of a length prefix, least significant first. -/
def fromLeBytes (a b c d : UInt8) : ℕ :=
  a.toNat + 256 * b.toNat + 65536 * c.toNat + 16777216 * d.toNat

def truncated : Closed := .stream .unexpectedEof

/-- Reads one frame: the length prefix, checked; the tag byte, checked; then the body. -/
def readFrame (stream : Stream) : Except Closed Frame × Stream :=
  match stream.fill 4 with
  | (.error reason, rest) => (.error reason, rest)
  | (.ok [], rest) => (.error .peer, rest)
  | (.ok [a, b, c, d], rest) =>
    match Frame.checkSize (fromLeBytes a b c d) with
    | .error error => (.error (.protocol error), rest)
    | .ok () =>
      match rest.fill 1 with
      | (.error reason, rest) => (.error reason, rest)
      | (.ok [tag], rest) =>
        match Carrier.byteStream.tag tag with
        | .error error => (.error (.protocol error), rest)
        | .ok _ =>
          match rest.fill (fromLeBytes a b c d - 1) with
          | (.error reason, rest) => (.error reason, rest)
          | (.ok body, rest) =>
            if body.length = fromLeBytes a b c d - 1 then (.ok ⟨tag, body⟩, rest)
            else (.error truncated, rest)
      | (.ok _, rest) => (.error truncated, rest)
  | (.ok _, rest) => (.error truncated, rest)

attribute [local simp] readFrame

/-- A frame read uses up at least its length prefix. -/
lemma readFrame_remaining (h : stream.readFrame = (.ok frame, rest)) :
    rest.remaining < stream.remaining := by
  unfold readFrame at h
  split at h <;> try simp only [Prod.mk.injEq, reduceCtorEq, false_and] at h
  rename_i a b c d afterPrefix hsize4
  have hread := (fill_remaining stream 4).2 [a, b, c, d] (by rw [hsize4])
  rw [hsize4] at hread
  have hread : afterPrefix.remaining + 4 ≤ stream.remaining := hread
  split at h <;> try simp only [Prod.mk.injEq, reduceCtorEq, false_and] at h
  split at h <;> try simp only [Prod.mk.injEq, reduceCtorEq, false_and] at h
  rename_i tag afterTag htag
  have htag' := (fill_remaining afterPrefix 1).1
  rw [htag] at htag'
  split at h <;> try simp only [Prod.mk.injEq, reduceCtorEq, false_and] at h
  split at h <;> try simp only [Prod.mk.injEq, reduceCtorEq, false_and] at h
  rename_i body afterBody hbody
  have hbody' := (fill_remaining afterTag (fromLeBytes a b c d - 1)).1
  rw [hbody] at hbody'
  split at h <;> simp only [Prod.mk.injEq, reduceCtorEq, false_and] at h
  obtain ⟨-, rfl⟩ := h
  simp only at htag' hbody'
  omega

/-- Frames read one after another, until a read ends the session. -/
def readFrames (stream : Stream) : List Frame × Closed :=
  match _h : stream.readFrame with
  | (.ok frame, rest) => (frame :: rest.readFrames.1, rest.readFrames.2)
  | (.error reason, _) => ([], reason)
termination_by stream.remaining
decreasing_by all_goals exact readFrame_remaining _h

lemma readFrames_of_ok (h : stream.readFrame = (.ok frame, rest)) :
    stream.readFrames = (frame :: rest.readFrames.1, rest.readFrames.2) := by
  rw [readFrames]
  split <;> simp_all

lemma readFrames_of_error {reason : Closed} (h : stream.readFrame = (.error reason, rest)) :
    stream.readFrames = ([], reason) := by
  rw [readFrames]
  split <;> simp_all

/-- What one read gives of the bytes of a steady stream, and what it leaves of them: a bad size
leaves what follows the prefix, a tag that is not carried what follows the tag. -/
def frameOf (bytes : Bytes) : Except Closed Frame × Bytes :=
  match bytes with
  | [] => (.error .peer, [])
  | a :: b :: c :: d :: bytes =>
    match Frame.checkSize (fromLeBytes a b c d), bytes with
    | .error error, bytes => (.error (.protocol error), bytes)
    | .ok (), [] => (.error truncated, [])
    | .ok (), tag :: bytes =>
      match Carrier.byteStream.tag tag with
      | .error error => (.error (.protocol error), bytes)
      | .ok _ =>
        (if fromLeBytes a b c d - 1 ≤ bytes.length
          then .ok ⟨tag, bytes.take (fromLeBytes a b c d - 1)⟩ else .error truncated,
          bytes.drop (fromLeBytes a b c d - 1))
  | _ => (.error truncated, [])

attribute [local simp] frameOf

lemma Holds.readFrame (h : stream.Holds bytes) :
    ∃ rest, stream.readFrame = ((frameOf bytes).1, rest) ∧ rest.Holds (frameOf bytes).2 := by
  obtain ⟨rest, hfill, hrest⟩ := h.fill 4
  match bytes with
  | [] | [_] | [_, _] | [_, _, _] => exact ⟨rest, by simp [hfill], by simpa using hrest⟩
  | a :: b :: c :: d :: bytes =>
    cases hsize : Frame.checkSize (fromLeBytes a b c d) with
    | error error => exact ⟨rest, by simp [hfill, hsize], by simpa [hsize] using hrest⟩
    | ok =>
      obtain ⟨after, hfill', hafter⟩ := hrest.fill 1
      cases bytes with
      | nil => exact ⟨after, by simp_all, by simpa [hsize] using hafter⟩
      | cons tag bytes =>
        cases htag : Carrier.byteStream.tag tag with
        | error error => exact ⟨after, by simp_all, by simpa [hsize, htag] using hafter⟩
        | ok known =>
          obtain ⟨last, hfill'', hlast⟩ := hafter.fill (fromLeBytes a b c d - 1)
          refine ⟨last, ?_, by simpa [hsize, htag] using hlast⟩
          by_cases hle : fromLeBytes a b c d - 1 ≤ bytes.length
          · simp [hfill, hsize, hfill', htag, hfill'', hle]
          · simp [hfill, hsize, hfill', htag, hfill'', hle]

end Stream

/-! ## Writing frames -/

def toLeBytes (size : ℕ) : Bytes :=
  [UInt8.ofNat size, UInt8.ofNat (size / 256), UInt8.ofNat (size / 65536),
    UInt8.ofNat (size / 16777216)]

/-- What the size, the tag byte and the body of a frame come to on the stream. -/
def encode (frame : Frame) : Bytes := toLeBytes frame.size ++ frame.tag :: frame.body

/-- Writes a checked frame after what the stream already holds. -/
def writeFrame (stream : Bytes) (frame : Frame) : Except ErrorKind Bytes :=
  match Frame.checkSize frame.size with
  | .error _ => .error .invalidInput
  | .ok () =>
    if frame.size < 2 ^ 32 then .ok (stream ++ encode frame) else .error .invalidInput

def writeFrames (stream : Bytes) : List Frame → Except ErrorKind Bytes
  | [] => .ok stream
  | frame :: frames =>
    match writeFrame stream frame with
    | .error kind => .error kind
    | .ok stream => writeFrames stream frames

/-- The byte-stream carrier carries the frame. -/
def Carried (frame : Frame) : Prop := ∃ tag, frame.check .byteStream = .ok tag

lemma Carried.size_eq (h : Carried frame) :
    frame.size = frame.body.length + 1 ∧ Frame.checkSize frame.size = .ok () ∧
      ∃ tag, Carrier.byteStream.tag frame.tag = .ok tag := by
  obtain ⟨tag, hcheck⟩ := h
  obtain ⟨hsize, hle, htag⟩ := Frame.size_of_check hcheck
  exact ⟨hsize, (Frame.checkSize_ok_iff _).mpr ⟨by omega, hle⟩, tag, htag⟩

lemma writeFrames_carried (stream : Bytes) (h : ∀ frame ∈ frames, Carried frame) :
    writeFrames stream frames = .ok (stream ++ frames.flatMap encode) := by
  induction frames generalizing stream with
  | nil => simp [writeFrames]
  | cons frame frames ih =>
    obtain ⟨-, hsize, -⟩ := (h frame mem_cons_self).size_eq
    have hle := ((Frame.checkSize_ok_iff _).mp hsize).2
    have hfits : frame.size < 2 ^ 32 := by
      simp only [maxFrameBytes] at hle
      omega
    have hone : writeFrame stream frame = .ok (stream ++ encode frame) := by
      simp only [writeFrame, hsize, if_pos hfits]
    rw [writeFrames, hone]
    simp [ih (stream ++ encode frame) fun frame hmem => h frame (mem_cons_of_mem _ hmem)]

/-- A size a `u32` holds survives its length prefix. -/
lemma fromLeBytes_toLeBytes {size : ℕ} (h : size < 2 ^ 32) :
    Stream.fromLeBytes (ofNat size) (ofNat (size / 256)) (ofNat (size / 65536))
      (ofNat (size / 16777216)) = size := by
  simp only [Stream.fromLeBytes, toNat_ofNat']
  omega

lemma length_encode (frame : Frame) : (encode frame).length = frame.body.length + 5 := by
  simp [encode, toLeBytes]

namespace Stream

variable {stream : Stream} {bytes cut : Bytes}

/-- What the header of a carried frame says to the reader. -/
lemma header_carried (h : Carried frame) :
    ∃ a b c d tag, encode frame = a :: b :: c :: d :: frame.tag :: frame.body ∧
      fromLeBytes a b c d = frame.body.length + 1 ∧
      Frame.checkSize (fromLeBytes a b c d) = .ok () ∧
      Carrier.byteStream.tag frame.tag = .ok tag := by
  obtain ⟨hsize, hcheck, tag, htag⟩ := h.size_eq
  have hfits : frame.size < 2 ^ 32 := by
    have hle := ((Frame.checkSize_ok_iff _).mp hcheck).2
    simp only [maxFrameBytes] at hle
    omega
  have hround := fromLeBytes_toLeBytes hfits
  exact ⟨_, _, _, _, tag, rfl, hround.trans hsize, by rw [hround, hcheck], htag⟩

lemma frameOf_encode (hcarried : Carried frame) :
    frameOf (encode frame ++ bytes) = (.ok frame, bytes) := by
  obtain ⟨a, b, c, d, tag, hencode, hsize, hcheck, htag⟩ := header_carried hcarried
  rw [hsize] at hcheck
  simp [frameOf, hencode, hsize, hcheck, htag]

/-- A stream that ends inside a frame is found truncated, wherever it is cut. -/
lemma frameOf_cut (hcarried : Carried frame) (hcut : cut <+: encode frame) (hne : cut ≠ [])
    (hlt : cut.length < (encode frame).length) : (frameOf cut).1 = .error truncated := by
  obtain ⟨a, b, c, d, tag, hencode, hsize, hcheck, htag⟩ := header_carried hcarried
  rw [length_encode] at hlt
  rw [hencode] at hcut
  match cut with
  | [] => exact absurd rfl hne
  | [_] | [_, _] | [_, _, _] => rfl
  | a' :: b' :: c' :: d' :: part =>
    simp only [cons_prefix_cons] at hcut
    obtain ⟨rfl, rfl, rfl, rfl, hpart⟩ := hcut
    cases part with
    | nil => simp [frameOf, hcheck]
    | cons =>
      obtain ⟨rfl, -⟩ := cons_prefix_cons.mp hpart
      simp only [length_cons] at hlt
      rw [hsize] at hcheck
      simp only [frameOf, hsize, hcheck, htag]
      exact if_neg (by omega)

/-- Whole frames are read off before what follows them. -/
lemma Holds.readFrames_append (hcarried : ∀ frame ∈ frames, Carried frame)
    (h : stream.Holds (frames.flatMap encode ++ bytes)) :
    ∃ rest : Stream, rest.Holds bytes ∧
      stream.readFrames = (frames ++ rest.readFrames.1, rest.readFrames.2) := by
  induction frames generalizing stream with
  | nil => exact ⟨stream, h, rfl⟩
  | cons frame frames ih =>
    rw [flatMap_cons, append_assoc] at h
    obtain ⟨after, hread, hafter⟩ := h.readFrame
    rw [frameOf_encode (hcarried frame mem_cons_self)] at hread hafter
    obtain ⟨rest, hrest, hreads⟩ :=
      ih (fun frame hmem => hcarried frame (mem_cons_of_mem _ hmem)) hafter
    exact ⟨rest, hrest, by rw [readFrames_of_ok hread, hreads]; rfl⟩

end Stream

/-- Where a prefix of the encoded frames is cut: `kept` whole frames, then a
strict part of the next one. -/
structure CutAt (frames : List Frame) (kept : ℕ) (cut : Bytes) : Prop where
  le : kept ≤ frames.length
  short : ∀ frame, frames[kept]? = some frame → cut.length < (encode frame).length
  inside : cut ≠ [] → ∃ frame, frames[kept]? = some frame ∧ cut <+: encode frame

lemma exists_cutAt {part : Bytes} (h : part <+: frames.flatMap encode) :
    ∃ kept cut, part = (frames.take kept).flatMap encode ++ cut ∧ CutAt frames kept cut := by
  induction frames generalizing part with
  | nil =>
    obtain rfl := prefix_nil.mp h
    exact ⟨0, [], rfl, le_refl _, by simp, by simp⟩
  | cons frame frames ih =>
    by_cases hlength : part.length < (encode frame).length
    · have hpart : part <+: encode frame :=
        prefix_of_prefix_length_le h (prefix_append ..) hlength.le
      exact ⟨0, part, rfl, by simp, by simpa using hlength, fun _ => ⟨frame, rfl, hpart⟩⟩
    · obtain ⟨rest, rfl⟩ : encode frame <+: part :=
        prefix_of_prefix_length_le (prefix_append ..) h (by omega)
      obtain ⟨kept, cut, rfl, hcut⟩ := ih ((prefix_append_right_inj _).mp h)
      exact ⟨kept + 1, cut, by simp, by simpa using hcut.le, by simpa using hcut.short,
        by simpa using hcut.inside⟩

lemma length_flatMap_take_mono (frames : List Frame) {k n : ℕ} (h : k ≤ n) :
    ((frames.take k).flatMap encode).length ≤ ((frames.take n).flatMap encode).length := by
  apply List.IsPrefix.length_le
  obtain ⟨more, hmore⟩ := take_prefix_take_left (l := frames) h
  rw [← hmore, flatMap_append]
  exact prefix_append ..

/-- The frames wholly inside the cut bytes are exactly the first `kept`. -/
lemma CutAt.length_le_iff {kept : ℕ} {cut : Bytes} (h : CutAt frames kept cut) {k : ℕ}
    (hk : k ≤ frames.length) :
    ((frames.take k).flatMap encode).length ≤ ((frames.take kept).flatMap encode ++ cut).length ↔
      k ≤ kept := by
  rw [length_append]
  refine ⟨fun hle => ?_, fun hle => ?_⟩
  · by_contra hlt
    have hkept : kept < frames.length := by omega
    have hshort := h.short frames[kept] (getElem?_eq_getElem hkept)
    have hmore := length_flatMap_take_mono frames (k := kept + 1) (n := k) (by omega)
    rw [take_succ_eq_append_getElem hkept, flatMap_append, length_append] at hmore
    simp only [flatMap_cons, flatMap_nil, append_nil] at hmore
    omega
  · have := length_flatMap_take_mono frames hle
    omega

/-- A cut stream gives its whole frames, then its end. -/
lemma CutAt.readFrames {kept : ℕ} {cut : Bytes} {stream : Stream}
    (hcarried : ∀ frame ∈ frames, Carried frame) (h : CutAt frames kept cut)
    (hstream : stream.Holds ((frames.take kept).flatMap encode ++ cut)) :
    stream.readFrames = (frames.take kept, if cut = [] then .peer else .stream .unexpectedEof) := by
  obtain ⟨rest, hrest, hreads⟩ := Stream.Holds.readFrames_append
    (fun frame hmem => hcarried frame (mem_of_mem_take hmem)) hstream
  rw [hreads]
  by_cases hempty : cut = []
  · subst hempty
    obtain ⟨after, hend, -⟩ := hrest.readFrame
    rw [Stream.readFrames_of_error hend]
    simp
  · obtain ⟨frame, hframe, hcut⟩ := h.inside hempty
    obtain ⟨after, hend, -⟩ := hrest.readFrame
    rw [Stream.frameOf_cut (hcarried frame (mem_of_getElem? hframe)) hcut hempty
      (h.short frame hframe)] at hend
    rw [Stream.readFrames_of_error hend, if_neg hempty]
    simp [Stream.truncated]

/-- For frames the byte-stream carrier carries, and however the reader splits or
interrupts its reads: the frames written are read back in order and then the
peer's close; a strict prefix of the bytes gives exactly the frames wholly inside
it, then the close on a frame boundary and an unexpected end elsewhere. And of any
bytes, a size outside the limits or a tag not carried is refused with only the
header consumed. -/
theorem frames_round_trip (frames : List Frame) (plan : List ReadAnswer)
    (hcarried : ∀ frame ∈ frames, Carried frame)
    (hsteady : ∀ kind, .failed kind ∈ plan → kind = .interrupted) :
    (∀ k, writeFrames [] (frames.take k) = .ok ((frames.take k).flatMap encode)) ∧
    writeFrames [] frames = .ok (frames.flatMap encode) ∧
    (Stream.mk (frames.flatMap encode) plan).readFrames = (frames, .peer) ∧
    (∀ part, part <+: frames.flatMap encode → part ≠ frames.flatMap encode →
      ∃ kept, kept ≤ frames.length ∧
        (∀ k, k ≤ frames.length →
          (((frames.take k).flatMap encode).length ≤ part.length ↔ k ≤ kept)) ∧
        (Stream.mk part plan).readFrames =
          (frames.take kept,
            if part = (frames.take kept).flatMap encode then .peer
            else .stream .unexpectedEof)) ∧
    (∀ a b c d bytes error, Frame.checkSize (Stream.fromLeBytes a b c d) = .error error →
      ∃ rest : Stream, (Stream.mk (a :: b :: c :: d :: bytes) plan).readFrame =
        (.error (.protocol error), rest) ∧ rest.bytes = bytes) ∧
    (∀ a b c d tag bytes error, Frame.checkSize (Stream.fromLeBytes a b c d) = .ok () →
      Carrier.byteStream.tag tag = .error error →
      ∃ rest : Stream, (Stream.mk (a :: b :: c :: d :: tag :: bytes) plan).readFrame =
        (.error (.protocol error), rest) ∧ rest.bytes = bytes) := by
  have hwrites : ∀ k, writeFrames [] (frames.take k) = .ok ((frames.take k).flatMap encode) :=
    fun k => by
      simpa using writeFrames_carried [] fun frame hmem => hcarried frame (mem_of_mem_take hmem)
  have hholds : ∀ bytes, (Stream.mk bytes plan).Holds bytes := fun bytes => ⟨rfl, hsteady⟩
  refine ⟨hwrites, by simpa using writeFrames_carried [] hcarried, ?_, ?_, ?_, ?_⟩
  · have hwhole : CutAt frames frames.length [] := ⟨le_refl _, by simp, by simp⟩
    have hstream : (Stream.mk (frames.flatMap encode) plan).Holds
        ((frames.take frames.length).flatMap encode ++ []) := by
      simpa using hholds (frames.flatMap encode)
    simpa using hwhole.readFrames hcarried hstream
  · intro part hpart _
    obtain ⟨kept, cut, rfl, hcut⟩ := exists_cutAt hpart
    refine ⟨kept, hcut.le, fun k hk => hcut.length_le_iff hk, ?_⟩
    rw [hcut.readFrames hcarried (hholds _)]
    simp
  · intro a b c d bytes error hsize
    obtain ⟨rest, hread, hrest⟩ := (hholds (a :: b :: c :: d :: bytes)).readFrame
    simp only [Stream.frameOf, hsize] at hread hrest
    exact ⟨rest, hread, hrest.bytes_eq⟩
  · intro a b c d tag bytes error hsize htag
    obtain ⟨rest, hread, hrest⟩ := (hholds (a :: b :: c :: d :: tag :: bytes)).readFrame
    simp only [Stream.frameOf, hsize, htag] at hread hrest
    exact ⟨rest, hread, hrest.bytes_eq⟩

/-- A call and an empty data frame, read a byte at a time with an interruption. -/
theorem frames_round_trip_sample :
    (Stream.mk ([⟨1, [7, 9]⟩, ⟨16, []⟩].flatMap encode)
      [.chunk 0, .failed .interrupted, .chunk 0]).readFrames =
      ([⟨1, [7, 9]⟩, ⟨16, []⟩], .peer) := by
  refine (frames_round_trip [⟨1, [7, 9]⟩, ⟨16, []⟩] [.chunk 0, .failed .interrupted, .chunk 0]
    ?_ ?_).2.2.1
  · intro frame hmem
    simp only [mem_cons, not_mem_nil, or_false] at hmem
    rcases hmem with rfl | rfl
    · exact ⟨.sessionCall, rfl⟩
    · exact ⟨.transportData, rfl⟩
  · intro kind hmem
    simpa using hmem

end GwzCore.SessionChannel
