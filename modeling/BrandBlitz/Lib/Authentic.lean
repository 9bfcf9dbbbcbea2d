import Mathlib.Data.List.Nodup

/-!
# BrandBlitz.Lib.Authentic

**Records with a message authentication code.** A signer has encoded records and given out their
codes. Whoever does not know the key can combine records and codes as he likes, but a code that
goes with a message goes with one that was signed (`Unforged`).

If the encoding loses nothing, and no two records that were signed have the same key, then a record
that is shown under the key of a signed one has the right code if and only if it *is* that record
(`authentic_iff`).
-/

namespace BrandBlitz.Lib.Authentic

variable {R M D κ : Type}

/-- A code that goes with the message is no forgery: the message has been signed. -/
def Unforged (mac : M → D) (signed : List M) (message : M) (code : D) : Prop :=
  mac message = code → message ∈ signed

section Records

variable {mac : M → D} {encode : R → M} {key : R → κ} {signed : List R} {r s : R} {code : D}

/-- A record is told by its key. -/
theorem eq_of_key_eq (hkeys : (signed.map key).Nodup) (hr : r ∈ signed) (hs : s ∈ signed)
    (hkey : key s = key r) : r = s :=
  List.inj_on_of_nodup_map hkeys hr hs hkey.symm

theorem mem_signed (hencode : Function.Injective encode)
    (hunforged : Unforged mac (signed.map encode) (encode r) code) (hcode : mac (encode r) = code) :
    r ∈ signed := by
  obtain ⟨s, hs, heq⟩ := List.mem_map.mp (hunforged hcode)
  rwa [← hencode heq]

/-- **What is authentic is unchanged.** -/
theorem authentic_iff (hencode : Function.Injective encode) (hkeys : (signed.map key).Nodup)
    (hunforged : Unforged mac (signed.map encode) (encode r) code) (hs : s ∈ signed)
    (hkey : key s = key r) : mac (encode r) = code ↔ r = s ∧ mac (encode s) = code := by
  constructor
  · intro hcode
    have heq := eq_of_key_eq hkeys (mem_signed hencode hunforged hcode) hs hkey
    exact ⟨heq, heq ▸ hcode⟩
  · rintro ⟨rfl, hcode⟩
    exact hcode

end Records

/-! ### Separators -/

/-- What stands before the first separator and what follows it can be read back. -/
theorem append_cons_inj_of_first {α : Type} {sep : α} {l l' rest rest' : List α} (hl : sep ∉ l)
    (hl' : sep ∉ l') (h : l ++ sep :: rest = l' ++ sep :: rest') : l = l' ∧ rest = rest' := by
  induction l generalizing l' with
  | nil =>
      cases l' with
      | nil => exact ⟨rfl, (List.cons.inj h).2⟩
      | cons a l' => exact absurd (List.cons.inj h).1 (List.ne_of_not_mem_cons hl')
  | cons a l ih =>
      cases l' with
      | nil => exact absurd (List.cons.inj h).1.symm (List.ne_of_not_mem_cons hl)
      | cons a' l' =>
          obtain ⟨rfl, htail⟩ := List.cons.inj h
          obtain ⟨rfl, hrest⟩ :=
            ih (List.not_mem_of_not_mem_cons hl) (List.not_mem_of_not_mem_cons hl') htail
          exact ⟨rfl, hrest⟩

/-- What precedes the last separator and what stands behind it can be read back. -/
theorem append_cons_inj_of_last {α : Type} {sep : α} {l l' rest rest' : List α}
    (hrest : sep ∉ rest) (hrest' : sep ∉ rest') (h : l ++ sep :: rest = l' ++ sep :: rest') :
    l = l' ∧ rest = rest' := by
  have hreverse : rest.reverse ++ sep :: l.reverse = rest'.reverse ++ sep :: l'.reverse := by
    simpa using congrArg List.reverse h
  have hparts := append_cons_inj_of_first (by simpa using hrest) (by simpa using hrest') hreverse
  exact ⟨List.reverse_injective hparts.2, List.reverse_injective hparts.1⟩

end BrandBlitz.Lib.Authentic
