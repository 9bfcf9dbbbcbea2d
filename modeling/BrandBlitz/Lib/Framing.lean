import Mathlib.Data.List.Basic
import Mathlib.Tactic.Common

/-!
# BrandBlitz.Lib.Framing

**Frames in a stream.** A stream arrives in chunks of any size, and its frames are read off a
buffer of what has not been understood yet.

* A `Framing` says what a frame is, as the units it is written with, and what it is read as.
  No frame is a prefix of another stream: a reader that sees one at the start of a buffer sees
  it whatever comes after (`read_append`).
* `decode` reads frames until there is none at the start. Frames written one after another
  are read in order (`decode_flatMap`), and reading a stream chunk by chunk is reading it at
  once (`foldl_feed`).
-/

namespace BrandBlitz.Lib

variable {β α ω : Type}

/-- What the frames of a stream are. -/
structure Framing (β α ω : Type) where
  /-- a frame as it is written -/
  units : ω → List β
  /-- what it is read as -/
  content : ω → α
  units_ne_nil : ∀ w, units w ≠ []
  /-- the first frame of a buffer, and its length -/
  read : List β → Option (α × Nat)
  read_iff : ∀ {buffer frame size}, read buffer = some (frame, size) ↔
    ∃ w rest, buffer = units w ++ rest ∧ frame = content w ∧ size = (units w).length

namespace Framing

variable (F : Framing β α ω)

/-- Does the buffer start with a complete frame? -/
def StartsWithFrame (buffer : List β) : Prop := ∃ w rest, buffer = F.units w ++ rest

variable {F}

theorem read_units (w : ω) (rest : List β) :
    F.read (F.units w ++ rest) = some (F.content w, (F.units w).length) :=
  F.read_iff.mpr ⟨w, rest, rfl, rfl, rfl⟩

theorem read_eq_none_iff {buffer : List β} : F.read buffer = none ↔ ¬ F.StartsWithFrame buffer := by
  constructor
  · rintro hread ⟨w, rest, rfl⟩
    rw [read_units] at hread
    cases hread
  · intro hno
    cases hread : F.read buffer with
    | none => rfl
    | some found =>
        obtain ⟨w, rest, hbuffer, -⟩ := F.read_iff.mp hread
        exact absurd ⟨w, rest, hbuffer⟩ hno

theorem read_size {buffer : List β} {frame : α} {size : Nat}
    (h : F.read buffer = some (frame, size)) : 0 < size ∧ size ≤ buffer.length := by
  obtain ⟨w, rest, rfl, -, rfl⟩ := F.read_iff.mp h
  have hpos := List.length_pos_iff.mpr (F.units_ne_nil w)
  rw [List.length_append]
  omega

/-- A frame at the start stays one whatever comes after it. -/
theorem read_append {buffer : List β} {found : α × Nat} (h : F.read buffer = some found)
    (more : List β) : F.read (buffer ++ more) = some found := by
  obtain ⟨frame, size⟩ := found
  obtain ⟨w, rest, rfl, rfl, rfl⟩ := F.read_iff.mp h
  rw [List.append_assoc, read_units]

variable (F) in
/-- The frames of a buffer, and what remains. -/
def decode (buffer : List β) : List α × List β :=
  match _hread : F.read buffer with
  | none => ([], buffer)
  | some (frame, size) =>
    let rest := decode (buffer.drop size)
    (frame :: rest.1, rest.2)
termination_by buffer.length
decreasing_by
  have := read_size _hread
  rw [List.length_drop]
  omega

theorem decode_of_none {buffer : List β} (h : F.read buffer = none) :
    F.decode buffer = ([], buffer) := by
  rw [decode]
  split
  · rfl
  · rename_i hread
    rw [h] at hread
    cases hread

theorem decode_of_some {buffer : List β} {frame : α} {size : Nat}
    (h : F.read buffer = some (frame, size)) :
    F.decode buffer =
      (frame :: (F.decode (buffer.drop size)).1, (F.decode (buffer.drop size)).2) := by
  rw [decode]
  split
  · rename_i hread
    rw [h] at hread
    cases hread
  · rename_i hread
    rw [h] at hread
    cases hread
    rfl

/-- The frames of a buffer come before those of what is appended to it. -/
theorem decode_append (buffer more : List β) :
    F.decode (buffer ++ more) =
      ((F.decode buffer).1 ++ (F.decode ((F.decode buffer).2 ++ more)).1,
        (F.decode ((F.decode buffer).2 ++ more)).2) := by
  -- by the length of the buffer: its first frame is the first frame of the longer one as well
  induction hlength : buffer.length using Nat.strongRecOn generalizing buffer with
  | _ n ih =>
      subst hlength
      cases hread : F.read buffer with
      | none => simp [decode_of_none hread]
      | some found =>
          obtain ⟨frame, size⟩ := found
          obtain ⟨hpos, hle⟩ := read_size hread
          have hshorter : (buffer.drop size).length < buffer.length := by
            rw [List.length_drop]
            omega
          rw [decode_of_some hread, decode_of_some (read_append hread more),
            List.drop_append_of_le_length hle, ih _ hshorter _ rfl]
          simp

/-- What remains does not start with a frame. -/
theorem not_startsWithFrame_decode (buffer : List β) :
    ¬ F.StartsWithFrame (F.decode buffer).2 := by
  induction hlength : buffer.length using Nat.strongRecOn generalizing buffer with
  | _ n ih =>
      subst hlength
      cases hread : F.read buffer with
      | none =>
          rw [decode_of_none hread]
          exact read_eq_none_iff.mp hread
      | some found =>
          obtain ⟨frame, size⟩ := found
          obtain ⟨hpos, hle⟩ := read_size hread
          rw [decode_of_some hread]
          refine ih (buffer.drop size).length ?_ _ rfl
          rw [List.length_drop]
          omega

/-- **Frames are read in the order in which they are written.** -/
theorem decode_flatMap {ι : Type} {items : List ι} {written : ι → List β} {seen : ι → α}
    (hframes : ∀ item ∈ items, ∃ w, written item = F.units w ∧ seen item = F.content w)
    {rest : List β} (hrest : ¬ F.StartsWithFrame rest) :
    F.decode (items.flatMap written ++ rest) = (items.map seen, rest) := by
  induction items with
  | nil => exact decode_of_none (read_eq_none_iff.mpr hrest)
  | cons item items ih =>
      obtain ⟨w, hwritten, hseen⟩ := hframes item List.mem_cons_self
      rw [List.flatMap_cons, List.append_assoc, hwritten, decode_of_some (read_units w _),
        List.drop_left, ih fun item hitem => hframes item (List.mem_cons_of_mem _ hitem),
        List.map_cons, hseen]

theorem not_startsWithFrame_nil : ¬ F.StartsWithFrame [] := by
  rintro ⟨w, rest, h⟩
  exact F.units_ne_nil w (List.append_eq_nil_iff.mp h.symm).1

theorem exists_decode (buffer : List β) : ∃ ws : List ω,
    buffer = ws.flatMap F.units ++ (F.decode buffer).2 ∧
      (F.decode buffer).1 = ws.map F.content := by
  induction hlength : buffer.length using Nat.strongRecOn generalizing buffer with
  | _ n ih =>
      subst hlength
      cases hread : F.read buffer with
      | none => exact ⟨[], by simp [decode_of_none hread]⟩
      | some found =>
          obtain ⟨frame, size⟩ := found
          have hsize := (read_size hread).1
          obtain ⟨w, rest, rfl, rfl, rfl⟩ := F.read_iff.mp hread
          rw [decode_of_some hread, List.drop_left]
          rw [List.length_append] at ih
          obtain ⟨ws, hrest, hframes⟩ := ih rest.length (by omega) rest rfl
          refine ⟨w :: ws, ?_, congrArg _ hframes⟩
          rw [List.flatMap_cons, List.append_assoc, ← hrest]

/-- **A buffer is decoded to its frames**, and to a rest that does not start with one. -/
theorem decode_eq_iff {buffer rest : List β} {frames : List α} :
    F.decode buffer = (frames, rest) ↔ ∃ ws : List ω,
      buffer = ws.flatMap F.units ++ rest ∧ frames = ws.map F.content ∧
        ¬ F.StartsWithFrame rest := by
  constructor
  · intro h
    obtain ⟨ws, hbuffer, hframes⟩ := exists_decode (F := F) buffer
    have hrest := not_startsWithFrame_decode (F := F) buffer
    rw [h] at hbuffer hframes hrest
    exact ⟨ws, hbuffer, hframes, hrest⟩
  · rintro ⟨ws, rfl, rfl, hrest⟩
    exact decode_flatMap (fun w _ => ⟨w, rfl, rfl⟩) hrest

variable (F) in
/-- One more chunk: what has been read so far, and what remains. -/
def feed (state : List α × List β) (chunk : List β) : List α × List β :=
  let next := F.decode (state.2 ++ chunk)
  (state.1 ++ next.1, next.2)

/-- **The chunks do not matter.** -/
theorem foldl_feed (chunks : List (List β)) {frames : List α} {buffer : List β}
    (hbuffer : ¬ F.StartsWithFrame buffer) :
    chunks.foldl F.feed (frames, buffer) =
      (frames ++ (F.decode (buffer ++ chunks.flatten)).1,
        (F.decode (buffer ++ chunks.flatten)).2) := by
  induction chunks generalizing frames buffer with
  | nil => simp [decode_of_none (read_eq_none_iff.mpr hbuffer)]
  | cons chunk chunks ih =>
      rw [List.foldl_cons, feed, ih (not_startsWithFrame_decode _), List.flatten_cons,
        ← List.append_assoc, decode_append (buffer ++ chunk)]
      simp

end Framing

end BrandBlitz.Lib
