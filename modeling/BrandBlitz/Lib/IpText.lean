import BrandBlitz.Lib.NumberText
import BrandBlitz.Lib.Words
import Mathlib.Algebra.Group.Nat.Defs
import Mathlib.Data.List.Chain
import Mathlib.Data.List.MinMax

/-!
# BrandBlitz.Lib.IpText

**IP addresses and their texts.** An IPv4 address has one text. An IPv6 address has many: groups of
up to four hexadecimal digits in either case, zeros left out at one place, the last two groups in
dotted form. A text is of one address only (`address_of_text`), and one of the texts is the
canonical one, in which the first longest run of zeros is left out (`exists_spelling_serialize`).
-/

namespace BrandBlitz.Lib.IpText

open BrandBlitz.Lib.NumberText BrandBlitz.Lib.Words

/-! ### Hexadecimal digits -/

def hexDigits : List Char := "0123456789abcdefABCDEF".toList

def hexValue (c : Char) : Nat :=
  let i := hexDigits.idxOf c
  if i < 16 then i else i - 6

def ofHex (digits : List Char) : Nat := digits.foldl (fun n c => 16 * n + hexValue c) 0

def toHex (n : Nat) : List Char := Nat.toDigits 16 n

theorem hexDigits_spec : ∀ c ∈ hexDigits, hexValue c < 16 ∧ c ≠ ':' ∧ c ≠ '.' ∧ c ≠ '%' ∧ c ≠ ']' ∧
    c.toLower ∈ hexDigits ∧ hexValue c.toLower = hexValue c := forall_mem_of_all (by decide)

theorem digitChar_spec : ∀ n, n < 16 → n.digitChar ∈ hexDigits ∧ hexValue n.digitChar = n ∧
    n.digitChar.toLower = n.digitChar := by decide

theorem ofHex_concat (digits : List Char) (c : Char) :
    ofHex (digits ++ [c]) = 16 * ofHex digits + hexValue c := by simp [ofHex]

theorem ofHex_lt {digits : List Char} (h : ∀ c ∈ digits, c ∈ hexDigits) :
    ofHex digits < 16 ^ digits.length := by
  induction digits using List.reverseRecOn with
  | nil => simp [ofHex]
  | append_singleton digits c ih =>
    have hdigits := ih fun d hd => h d (List.mem_append_left _ hd)
    have hc := (hexDigits_spec c (h c (by simp))).1
    rw [ofHex_concat, List.length_append, List.length_singleton, Nat.pow_succ]
    omega

theorem mem_toHex {n : Nat} {c : Char} (h : c ∈ toHex n) : c ∈ hexDigits ∧ c.toLower = c := by
  induction n using Nat.strongRecOn with
  | _ n ih =>
    by_cases hlt : n < 16
    · rw [toHex, Nat.toDigits_of_lt_base hlt, List.mem_singleton] at h
      subst h
      exact ⟨(digitChar_spec n hlt).1, (digitChar_spec n hlt).2.2⟩
    · rw [toHex, Nat.toDigits_of_base_le (by decide) (by omega), List.mem_append,
        List.mem_singleton] at h
      rcases h with h | rfl
      · exact ih (n / 16) (by omega) h
      · exact ⟨(digitChar_spec _ (by omega)).1, (digitChar_spec _ (by omega)).2.2⟩

/-- A number is read back. -/
@[simp] theorem ofHex_toHex (n : Nat) : ofHex (toHex n) = n := by
  induction n using Nat.strongRecOn with
  | _ n ih =>
    by_cases hlt : n < 16
    · rw [toHex, Nat.toDigits_of_lt_base hlt]
      simp [ofHex, (digitChar_spec n hlt).2.1]
    · have hquot := ih (n / 16) (by omega)
      rw [toHex] at hquot
      rw [toHex, Nat.toDigits_of_base_le (by decide) (by omega), ofHex_concat, hquot,
        (digitChar_spec _ (by omega)).2.1]
      omega

theorem toHex_injective : Function.Injective toHex := fun m n h => by
  rw [← ofHex_toHex m, h, ofHex_toHex]

theorem toHex_ne_nil (n : Nat) : toHex n ≠ [] := Nat.toDigits_ne_nil

/-! ### Addresses -/

structure Ipv4 where
  a : Fin 256
  b : Fin 256
  c : Fin 256
  d : Fin 256
deriving DecidableEq, Repr

/-- The address of four numbers. -/
def Ipv4.ofNats (a b c d : Nat) : Ipv4 :=
  ⟨Fin.ofNat 256 a, Fin.ofNat 256 b, Fin.ofNat 256 c, Fin.ofNat 256 d⟩

/-- Eight groups of 16 bits. -/
structure Ipv6 where
  groups : List Nat
  length_groups : groups.length = 8
  groups_lt : ∀ g ∈ groups, g < 65536
deriving DecidableEq

def Ipv4.octets (ip : Ipv4) : List Nat := [ip.a, ip.b, ip.c, ip.d]

def Ipv4.text (ip : Ipv4) : List Char := ['.'].intercalate (ip.octets.map (Nat.toDigits 10))

/-- As two groups of 16 bits. -/
def Ipv4.groups (ip : Ipv4) : List Nat := [256 * ip.a + ip.b, 256 * ip.c + ip.d]

/-- The IPv4 address that an address is mapped from: `::ffff:0:0/96`. -/
def Ipv6.mapped (ip : Ipv6) : Option Ipv4 :=
  match ip.groups with
  | [0, 0, 0, 0, 0, 65535, g, h] =>
    some ⟨Fin.ofNat 256 (g / 256), Fin.ofNat 256 g, Fin.ofNat 256 (h / 256), Fin.ofNat 256 h⟩
  | _ => none

theorem Ipv4.splitOn_text (ip : Ipv4) :
    ip.text.splitOn '.' = ip.octets.map (Nat.toDigits 10) := by
  refine List.splitOn_intercalate '.' ?_ (by simp [Ipv4.octets])
  intro l hl
  obtain ⟨n, -, rfl⟩ := List.mem_map.mp hl
  exact not_mem_digits (by decide)

theorem Ipv4.text_injective : Function.Injective Ipv4.text := by
  intro ip ip' h
  have hoctets := ip.splitOn_text
  rw [h, ip'.splitOn_text] at hoctets
  have hsame := List.map_injective_iff.mpr toDigits_injective hoctets
  obtain ⟨a, b, c, d⟩ := ip
  obtain ⟨a', b', c', d'⟩ := ip'
  simp only [Ipv4.octets, List.cons.injEq, and_true, Fin.val_inj] at hsame
  obtain ⟨rfl, rfl, rfl, rfl⟩ := hsame
  rfl

/-- The text has digits and points only. -/
theorem Ipv4.mem_text {ip : Ipv4} {c : Char} (h : c ∈ ip.text) : c.isDigit = true ∨ c = '.' := by
  rcases mem_join h with h | ⟨w, hw, h⟩
  · exact .inr h
  · obtain ⟨n, -, rfl⟩ := List.mem_map.mp hw
    exact .inl (isDigit_of_mem_digits h)

theorem Ipv4.dot_mem_text (ip : Ipv4) : '.' ∈ ip.text := by
  simp [Ipv4.text, Ipv4.octets, List.intercalate_cons_cons]

/-- `\d{1,3}\.\d{1,3}\.\d{1,3}\.\d{1,3}` -/
def isQuad (text : List Char) : Bool :=
  let parts := text.splitOn '.'
  parts.length = 4 && parts.all fun part =>
    1 ≤ part.length && part.length ≤ 3 && part.all (·.isDigit)

theorem Ipv4.isQuad_text (ip : Ipv4) : isQuad ip.text = true := by
  have hoctet {n : Nat} (hn : n < 256) : 1 ≤ (Nat.toDigits 10 n).length ∧
      (Nat.toDigits 10 n).length ≤ 3 ∧ ∀ c ∈ Nat.toDigits 10 n, c.isDigit = true :=
    ⟨Nat.length_toDigits_pos, (Nat.length_toDigits_le_iff (by decide) (by decide)).mpr (by omega),
      fun c hc => isDigit_of_mem_digits hc⟩
  have hoctets : ∀ n ∈ ip.octets, n < 256 := by simp [Ipv4.octets]
  simp only [isQuad, ip.splitOn_text, List.length_map, List.all_map, Bool.and_eq_true,
    decide_eq_true_eq, List.all_eq_true, Function.comp_apply]
  refine ⟨rfl, fun n hn => ?_⟩
  have hspec := hoctet (hoctets n hn)
  exact ⟨⟨hspec.1, hspec.2.1⟩, hspec.2.2⟩

theorem isQuad_cons {c : Char} (hdot : c ≠ '.') (hdigit : c.isDigit = false) (text : List Char) :
    isQuad (c :: text) = false := by
  have hsplit : (c :: text).splitOn '.' = (text.splitOn '.').modifyHead (c :: ·) := by
    rw [List.splitOn_cons_eq_if_modifyHead, if_neg (by simpa using hdot)]
  obtain ⟨w, ws, hws⟩ := List.exists_cons_of_ne_nil (List.splitOn_ne_nil '.' text)
  rw [hws] at hsplit
  simp [isQuad, hsplit, hdigit]

/-- The octets of a text. -/
theorem Ipv4.octets_text (ip : Ipv4) :
    (ip.text.splitOn '.').map (Nat.ofDigitChars 10 · 0) = ip.octets := by
  rw [ip.splitOn_text, List.map_map]
  exact (List.map_congr_left fun n _ => Nat.ofDigitChars_ten_toDigits).trans (List.map_id _)

theorem Ipv4.groups_lt (ip : Ipv4) : ∀ g ∈ ip.groups, g < 65536 := by
  intro g hg
  simp only [Ipv4.groups, List.mem_cons, List.not_mem_nil, or_false] at hg
  have ha := ip.a.isLt
  have hb := ip.b.isLt
  have hc := ip.c.isLt
  have hd := ip.d.isLt
  omega

/-! ### Spellings -/

/-- A group as it is written. -/
structure Hextet where
  digits : List Char
  length_digits : 0 < digits.length ∧ digits.length ≤ 4
  digits_hex : ∀ c ∈ digits, c ∈ hexDigits
deriving DecidableEq

/-- The group before a mapped address. -/
def Hextet.ffff : Hextet := ⟨"ffff".toList, by decide, forall_mem_of_all (by decide)⟩

inductive Part where
  | group (hextet : Hextet)
  | dotted (ip : Ipv4)
deriving DecidableEq

def Part.text : Part → List Char
  | .group hextet => hextet.digits
  | .dotted ip => ip.text

def Part.groups : Part → List Nat
  | .group hextet => [ofHex hextet.digits]
  | .dotted ip => ip.groups

def Part.isGroup : Part → Bool
  | .group _ => true
  | .dotted _ => false

/-- Parts with colons between them. -/
def partsText (parts : List Part) : List Char := [':'].intercalate (parts.map Part.text)

def partsGroups (parts : List Part) : List Nat := parts.flatMap Part.groups

/-- There are eight groups, or up to seven and `::`. Only the last part can be dotted. -/
def WellFormed (left : List Part) : Option (List Part) → Prop
  | none => (partsGroups left).length = 8 ∧ ∀ p ∈ left.dropLast, p.isGroup = true
  | some right =>
    (partsGroups left).length + (partsGroups right).length ≤ 7 ∧
      (∀ p ∈ left, p.isGroup = true) ∧ ∀ p ∈ right.dropLast, p.isGroup = true

/-- A text of an IPv6 address: all of its parts, or those before `::` and those after it. -/
structure Spelling where
  left : List Part
  right : Option (List Part)
  wellFormed : WellFormed left right

namespace Spelling

def text (s : Spelling) : List Char :=
  match s.right with
  | none => partsText s.left
  | some right => partsText s.left ++ ':' :: ':' :: partsText right

/-- The groups, with zeros where `::` is. -/
def groups (s : Spelling) : List Nat :=
  match s.right with
  | none => partsGroups s.left
  | some right =>
    partsGroups s.left ++
      (List.replicate (8 - (partsGroups s.left).length - (partsGroups right).length) 0 ++
        partsGroups right)

end Spelling

theorem Part.groups_lt (p : Part) : ∀ g ∈ p.groups, g < 65536 := by
  cases p with
  | group hextet =>
    intro g hg
    rw [Part.groups, List.mem_singleton] at hg
    subst hg
    calc ofHex hextet.digits < 16 ^ hextet.digits.length := ofHex_lt hextet.digits_hex
      _ ≤ 16 ^ 4 := Nat.pow_le_pow_right (by decide) hextet.length_digits.2
  | dotted ip => exact ip.groups_lt

theorem partsGroups_lt {parts : List Part} : ∀ g ∈ partsGroups parts, g < 65536 := by
  intro g hg
  obtain ⟨p, -, hp⟩ := List.mem_flatMap.mp hg
  exact p.groups_lt g hp

/-- The address that a spelling is of. -/
def Spelling.address (s : Spelling) : Ipv6 where
  groups := s.groups
  length_groups := by
    have hwell := s.wellFormed
    unfold Spelling.groups
    split
    next hright =>
      rw [hright] at hwell
      exact hwell.1
    next right hright =>
      rw [hright] at hwell
      have hcount := hwell.1
      rw [List.length_append, List.length_append, List.length_replicate]
      omega
  groups_lt := by
    intro g hg
    unfold Spelling.groups at hg
    split at hg
    · exact partsGroups_lt g hg
    · rcases List.mem_append.mp hg with hg | hg
      · exact partsGroups_lt g hg
      · rcases List.mem_append.mp hg with hg | hg
        · rw [(List.mem_replicate.mp hg).2]
          decide
        · exact partsGroups_lt g hg

/-! ### Splitting -/

section

variable {α : Type} [DecidableEq α]

def consHead (a : α) : List (List α) → List (List α)
  | [] => [[a]]
  | l :: ls => (a :: l) :: ls

/-- `text.split("::")`, with `sep` for the colon. -/
def splitDouble (sep : α) : List α → List (List α)
  | [] => [[]]
  | [a] => [[a]]
  | a :: b :: l =>
    if a = sep ∧ b = sep then [] :: splitDouble sep l else consHead a (splitDouble sep (b :: l))

variable {sep : α} {l : List α}

/-- There are no two separators in a row. -/
def NoDouble (sep : α) (l : List α) : Prop := l.IsChain fun a b => ¬ (a = sep ∧ b = sep)

theorem splitDouble_noDouble (h : NoDouble sep l) : splitDouble sep l = [l] := by
  induction l with
  | nil => rfl
  | cons a l ih =>
    cases l with
    | nil => rfl
    | cons b l =>
      obtain ⟨hfirst, hrest⟩ := List.isChain_cons_cons.mp h
      rw [splitDouble, if_neg hfirst, ih hrest]
      rfl

theorem splitDouble_append (h : NoDouble sep l) (hlast : l.getLast? ≠ some sep) (m : List α) :
    splitDouble sep (l ++ sep :: sep :: m) = l :: splitDouble sep m := by
  induction l with
  | nil => simp [splitDouble]
  | cons a l ih =>
    cases l with
    | nil =>
      have hne : a ≠ sep := by simpa using hlast
      simp [splitDouble, hne, consHead]
    | cons b l =>
      obtain ⟨hfirst, hrest⟩ := List.isChain_cons_cons.mp h
      have hnext := ih hrest (by simpa [List.getLast?_cons_cons] using hlast)
      show splitDouble sep (a :: b :: (l ++ sep :: sep :: m)) = _
      rw [splitDouble, if_neg hfirst]
      show consHead a (splitDouble sep (b :: l ++ sep :: sep :: m)) = _
      rw [hnext]
      rfl

end

/-! ### Parts are found again -/

theorem Part.text_spec (p : Part) : p.text ≠ [] ∧ ∀ c ∈ p.text, c ≠ ':' ∧ c ≠ '%' ∧ c ≠ ']' := by
  cases p with
  | group hextet =>
    refine ⟨List.length_pos_iff.mp hextet.length_digits.1, fun c hc => ?_⟩
    have hspec := hexDigits_spec c (hextet.digits_hex c hc)
    exact ⟨hspec.2.1, hspec.2.2.2.1, hspec.2.2.2.2.1⟩
  | dotted ip =>
    refine ⟨List.ne_nil_of_mem ip.dot_mem_text, fun c hc => ?_⟩
    rcases ip.mem_text hc with hc | rfl
    · refine ⟨?_, ?_, ?_⟩
      all_goals
        rintro rfl
        exact absurd hc (by decide)
    · decide

/-- What has no colon is a word here. -/
theorem isWord_text (p : Part) : IsWord (fun c => c ≠ ':') p.text :=
  ⟨p.text_spec.1, fun c hc => by simpa using (p.text_spec.2 c hc).1⟩

theorem isWord_of_mem (parts : List Part) :
    ∀ w ∈ parts.map Part.text, IsWord (fun c => c ≠ ':') w := by
  intro w hw
  obtain ⟨p, -, rfl⟩ := List.mem_map.mp hw
  exact isWord_text p

theorem noDouble_join {ws : List (List Char)} (hws : ∀ w ∈ ws, IsWord (fun c => c ≠ ':') w) :
    NoDouble ':' ([':'].intercalate ws) ∧ ([':'].intercalate ws).getLast? ≠ some ':' := by
  have hword {w : List Char} (hw : IsWord (fun c => c ≠ ':') w) :
      NoDouble ':' w ∧ w.getLast? ≠ some ':' := by
    have hne (c : Char) (hc : c ∈ w) : c ≠ ':' := by simpa using hw.2 c hc
    refine ⟨List.Pairwise.isChain (List.pairwise_of_forall_mem_list fun a ha b _ hboth =>
      hne a ha hboth.1), fun hlast => ?_⟩
    exact hne ':' (List.mem_of_getLast? hlast) rfl
  induction ws with
  | nil => exact ⟨List.isChain_nil, by simp⟩
  | cons w ws ih =>
    obtain ⟨hw, hrest⟩ := List.forall_mem_cons.mp hws
    obtain ⟨hchain, hlast⟩ := hword hw
    by_cases hne : ws = []
    · rw [hne, List.intercalate_singleton]
      exact ⟨hchain, hlast⟩
    · obtain ⟨hchain', hlast'⟩ := ih hrest
      have hjoin := join_ne_nil ':' hrest hne
      rw [join_cons w hne]
      constructor
      · refine List.isChain_append.mpr ⟨hchain, List.isChain_cons.mpr ⟨?_, hchain'⟩, ?_⟩
        · intro c hc hboth
          have hhead := head_join hrest c hc
          rw [hboth.2] at hhead
          simp at hhead
        · intro c hc d _ hboth
          rw [hboth.1] at hc
          exact hlast hc
      · rw [List.getLast?_append_of_ne_nil _ (List.cons_ne_nil _ _),
          List.getLast?_cons_of_ne_nil hjoin]
        exact hlast'

theorem splitOn_partsText {parts : List Part} (hne : parts ≠ []) :
    (partsText parts).splitOn ':' = parts.map Part.text := by
  refine List.splitOn_intercalate ':' ?_ (by simpa using hne)
  intro l hl hcolon
  obtain ⟨p, -, rfl⟩ := List.mem_map.mp hl
  exact (p.text_spec.2 ':' hcolon).1 rfl

theorem partsText_eq_nil_iff {parts : List Part} : partsText parts = [] ↔ parts = [] := by
  constructor
  · intro h
    by_contra hne
    exact join_ne_nil ':' (isWord_of_mem parts) (by simpa using hne) h
  · rintro rfl
    rfl

/-- The parts of a text, without the empty one of an empty text. -/
theorem partsText_inj {parts parts' : List Part} (h : partsText parts = partsText parts') :
    parts.map Part.text = parts'.map Part.text := by
  by_cases hne : parts = []
  · subst hne
    have hnil : parts' = [] := partsText_eq_nil_iff.mp h.symm
    rw [hnil]
  · have hne' : parts' ≠ [] := fun hnil => hne (partsText_eq_nil_iff.mp (h.trans (by rw [hnil]; rfl)))
    rw [← splitOn_partsText hne, h, splitOn_partsText hne']

theorem Spelling.splitDouble_text (s : Spelling) :
    splitDouble ':' s.text = partsText s.left :: (s.right.map partsText).toList := by
  have hleft := noDouble_join (isWord_of_mem s.left)
  have hchain : NoDouble ':' (partsText s.left) := hleft.1
  have hlast : (partsText s.left).getLast? ≠ some ':' := hleft.2
  unfold Spelling.text
  cases s.right with
  | none => exact splitDouble_noDouble hchain
  | some right =>
    have hright := (noDouble_join (isWord_of_mem right)).1
    show splitDouble ':' (partsText s.left ++ ':' :: ':' :: partsText right) = _
    rw [splitDouble_append hchain hlast]
    exact congrArg _ (splitDouble_noDouble hright)

theorem Part.length_groups_le (p : Part) : p.groups.length ≤ 2 := by
  cases p with
  | group hextet => exact Nat.le_succ 1
  | dotted ip => exact Nat.le_refl 2

/-- There is a colon in every text. -/
theorem Spelling.colon_mem_text (s : Spelling) : ':' ∈ s.text := by
  obtain ⟨left, right, hwell⟩ := s
  cases right with
  | some right => exact List.mem_append_right _ List.mem_cons_self
  | none =>
    have hlength : (partsGroups left).length = 8 := hwell.1
    match left with
    | [] => simp [partsGroups] at hlength
    | [p] =>
      have hp := p.length_groups_le
      simp only [partsGroups, List.flatMap_cons, List.flatMap_nil, List.append_nil] at hlength
      omega
    | p :: q :: left =>
      show ':' ∈ [':'].intercalate (p.text :: (q :: left).map Part.text)
      rw [join_cons _ (by simp)]
      exact List.mem_append_right _ List.mem_cons_self

theorem Ipv4.text_ne (ip : Ipv4) (s : Spelling) (l : List Char) : ip.text ≠ s.text ++ l := by
  intro h
  have hcolon : ':' ∈ ip.text := by
    rw [h]
    exact List.mem_append_left _ s.colon_mem_text
  rcases ip.mem_text hcolon with hcolon | hcolon
  all_goals exact absurd hcolon (by decide)

/-- What a text is made of. -/
theorem Spelling.mem_text {s : Spelling} {c : Char} (h : c ∈ s.text) :
    c = ':' ∨ c = '.' ∨ c ∈ hexDigits ∨ c.isDigit = true := by
  have hpart {p : Part} (hc : c ∈ p.text) :
      c = ':' ∨ c = '.' ∨ c ∈ hexDigits ∨ c.isDigit = true := by
    cases p with
    | group hextet => exact .inr (.inr (.inl (hextet.digits_hex c hc)))
    | dotted ip =>
      rcases ip.mem_text hc with hc | hc
      · exact .inr (.inr (.inr hc))
      · exact .inr (.inl hc)
  have hparts {parts : List Part} (hc : c ∈ partsText parts) :
      c = ':' ∨ c = '.' ∨ c ∈ hexDigits ∨ c.isDigit = true := by
    rcases mem_join hc with hc | ⟨w, hw, hc⟩
    · exact .inl hc
    · obtain ⟨p, -, rfl⟩ := List.mem_map.mp hw
      exact hpart hc
  unfold Spelling.text at h
  split at h
  · exact hparts h
  · rw [List.mem_append, List.mem_cons, List.mem_cons] at h
    rcases h with h | h | h | h
    · exact hparts h
    · exact .inl h
    · exact .inl h
    · exact hparts h

theorem Hextet.dot_not_mem (hextet : Hextet) : '.' ∉ hextet.digits := fun hdot =>
  (hexDigits_spec '.' (hextet.digits_hex '.' hdot)).2.2.1 rfl

/-- A group is not a dotted part. -/
theorem Hextet.digits_ne (hextet : Hextet) (ip : Ipv4) : hextet.digits ≠ ip.text := fun h =>
  hextet.dot_not_mem (h ▸ ip.dot_mem_text)

theorem Part.groups_of_text {p q : Part} (h : p.text = q.text) : p.groups = q.groups := by
  cases p with
  | group hextet =>
    cases q with
    | group hextet' => exact congrArg (fun digits => [ofHex digits]) h
    | dotted ip => exact absurd h (hextet.digits_ne ip)
  | dotted ip =>
    cases q with
    | group hextet => exact absurd h.symm (hextet.digits_ne ip)
    | dotted ip' => exact congrArg Ipv4.groups (Ipv4.text_injective h)

theorem partsGroups_of_texts {parts parts' : List Part}
    (h : parts.map Part.text = parts'.map Part.text) : partsGroups parts = partsGroups parts' := by
  induction parts generalizing parts' with
  | nil =>
    rw [List.map_nil, eq_comm, List.map_eq_nil_iff] at h
    rw [h]
  | cons p parts ih =>
    cases parts' with
    | nil => cases h
    | cons q parts' =>
      obtain ⟨hhead, htail⟩ := List.cons.inj h
      have hgroups := Part.groups_of_text hhead
      have hrest := ih htail
      unfold partsGroups at hrest ⊢
      rw [List.flatMap_cons, List.flatMap_cons, hgroups, hrest]

/-- **A text is of one address.** -/
theorem address_of_text {s t : Spelling} (h : s.text = t.text) : s.address = t.address := by
  have hsplit := s.splitDouble_text
  rw [h, t.splitDouble_text] at hsplit
  obtain ⟨hleft, hright⟩ := List.cons.inj hsplit
  have hgroups := partsGroups_of_texts (partsText_inj hleft)
  have hsame : s.groups = t.groups := by
    unfold Spelling.groups
    cases hs : s.right with
    | none =>
      cases ht : t.right with
      | none => exact hgroups.symm
      | some right => simp [hs, ht] at hright
    | some right =>
      cases ht : t.right with
      | none => simp [hs, ht] at hright
      | some right' =>
        simp only [hs, ht, Option.map_some, Option.toList_some, List.cons.injEq, and_true] at hright
        simp only [hgroups, partsGroups_of_texts (partsText_inj hright)]
  unfold Spelling.address
  congr 1

/-! ### The canonical text -/

/-- The number of zeros at the beginning. -/
def zeroRun (groups : List Nat) : Nat := (groups.takeWhile (· = 0)).length

/-- Where the first longest run of zeros begins, if it is of two groups at least. -/
def compressAt (groups : List Nat) : Option Nat :=
  ((List.range groups.length).argmax fun i => zeroRun (groups.drop i)).filter fun i =>
    2 ≤ zeroRun (groups.drop i)

def hexText (groups : List Nat) : List Char := [':'].intercalate (groups.map toHex)

/-- As an address is written in a URL, without the brackets. -/
def Ipv6.serialize (ip : Ipv6) : List Char :=
  match compressAt ip.groups with
  | none => hexText ip.groups
  | some i =>
    hexText (ip.groups.take i) ++
      ':' :: ':' :: hexText (ip.groups.drop (i + zeroRun (ip.groups.drop i)))

theorem hexText_inj {groups groups' : List Nat} (hne : groups ≠ []) (hne' : groups' ≠ [])
    (h : hexText groups = hexText groups') : groups = groups' := by
  have hsplit {groups : List Nat} (hne : groups ≠ []) :
      (hexText groups).splitOn ':' = groups.map toHex := by
    refine List.splitOn_intercalate ':' ?_ (by simpa using hne)
    intro l hl hcolon
    obtain ⟨g, -, rfl⟩ := List.mem_map.mp hl
    exact (hexDigits_spec ':' (mem_toHex hcolon).1).2.1 rfl
  refine List.map_injective_iff.mpr toHex_injective ?_
  rw [← hsplit hne, h, hsplit hne']

/-- Groups are written as parts. -/
theorem exists_parts {groups : List Nat} (h : ∀ g ∈ groups, g < 65536) :
    ∃ parts : List Part, (∀ p ∈ parts, p.isGroup = true) ∧ partsText parts = hexText groups ∧
      partsGroups parts = groups := by
  have hparts : ∃ parts : List Part, (∀ p ∈ parts, p.isGroup = true) ∧
      parts.map Part.text = groups.map toHex ∧ partsGroups parts = groups := by
    induction groups with
    | nil => exact ⟨[], by simp, rfl, rfl⟩
    | cons g groups ih =>
      obtain ⟨hg, hrest⟩ := List.forall_mem_cons.mp h
      obtain ⟨parts, hgroup, htext, hgroups⟩ := ih hrest
      have hlength : (toHex g).length ≤ 4 :=
        (Nat.length_toDigits_le_iff (by decide) (by decide)).mpr hg
      let hextet : Hextet :=
        ⟨toHex g, ⟨List.length_pos_iff.mpr (toHex_ne_nil g), hlength⟩, fun c hc => (mem_toHex hc).1⟩
      refine ⟨.group hextet :: parts, List.forall_mem_cons.mpr ⟨rfl, hgroup⟩, ?_, ?_⟩
      · rw [List.map_cons, List.map_cons, htext]
        rfl
      · show [ofHex (toHex g)] ++ partsGroups parts = _
        rw [ofHex_toHex, hgroups]
        rfl
  obtain ⟨parts, hgroup, htext, hgroups⟩ := hparts
  exact ⟨parts, hgroup, congrArg _ htext, hgroups⟩

/-- The canonical text is in lower case. -/
theorem Ipv6.mem_serialize {ip : Ipv6} {c : Char} (h : c ∈ ip.serialize) :
    c = ':' ∨ c ∈ hexDigits ∧ c.toLower = c := by
  have hhex {groups : List Nat} (hc : c ∈ hexText groups) :
      c = ':' ∨ c ∈ hexDigits ∧ c.toLower = c := by
    rcases mem_join hc with hc | ⟨w, hw, hc⟩
    · exact .inl hc
    · obtain ⟨g, -, rfl⟩ := List.mem_map.mp hw
      exact .inr (mem_toHex hc)
  unfold Ipv6.serialize at h
  split at h
  · exact hhex h
  · rw [List.mem_append, List.mem_cons, List.mem_cons] at h
    rcases h with h | h | h | h
    · exact hhex h
    · exact .inl h
    · exact .inl h
    · exact hhex h

theorem drop_zeroRun (groups : List Nat) :
    List.replicate (zeroRun groups) 0 ++ groups.drop (zeroRun groups) = groups := by
  induction groups with
  | nil => rfl
  | cons g groups ih =>
    by_cases hg : g = 0
    · subst hg
      have hrun : zeroRun (0 :: groups) = zeroRun groups + 1 := by simp [zeroRun]
      rw [hrun, List.replicate_succ, List.cons_append, List.drop_succ_cons, ih]
    · have hrun : zeroRun (g :: groups) = 0 := by simp [zeroRun, hg]
      rw [hrun]
      rfl

/-- **The canonical text is one of the texts.** -/
theorem exists_spelling_serialize (ip : Ipv6) :
    ∃ s : Spelling, s.text = ip.serialize ∧ s.address = ip := by
  have hlength := ip.length_groups
  cases hat : compressAt ip.groups with
  | none =>
    obtain ⟨parts, hgroup, htext, hgroups⟩ := exists_parts ip.groups_lt
    have hwell : WellFormed parts none :=
      ⟨by rw [hgroups, hlength], fun p hp => hgroup p (List.dropLast_subset _ hp)⟩
    refine ⟨⟨parts, none, hwell⟩, ?_, ?_⟩
    · simp only [Spelling.text, Ipv6.serialize, hat, htext]
    · simp only [Spelling.address, Spelling.groups, hgroups]
  | some i =>
    have hrun : 2 ≤ zeroRun (ip.groups.drop i) := by
      have hfilter := Option.filter_eq_some_iff.mp hat
      simpa using hfilter.2
    have hsplit := drop_zeroRun (ip.groups.drop i)
    generalize hn : zeroRun (ip.groups.drop i) = n at hrun hsplit
    rw [List.drop_drop] at hsplit
    obtain ⟨left, hleftGroup, hleftText, hleft⟩ :=
      exists_parts fun g (hg : g ∈ ip.groups.take i) => ip.groups_lt g (List.mem_of_mem_take hg)
    obtain ⟨right, hrightGroup, hrightText, hright⟩ :=
      exists_parts fun g (hg : g ∈ ip.groups.drop (i + n)) =>
        ip.groups_lt g (List.mem_of_mem_drop hg)
    have htotal := congrArg List.length hsplit
    rw [List.length_append, List.length_replicate, List.length_drop, List.length_drop, hlength]
      at htotal
    have hcount : (partsGroups left).length + (partsGroups right).length ≤ 7 ∧
        8 - (partsGroups left).length - (partsGroups right).length = n := by
      rw [hleft, hright, List.length_take, List.length_drop, hlength]
      omega
    have hwell : WellFormed left (some right) :=
      ⟨hcount.1, hleftGroup, fun p hp => hrightGroup p (List.dropLast_subset _ hp)⟩
    have hsame : Spelling.groups ⟨left, some right, hwell⟩ = ip.groups := by
      simp only [Spelling.groups, hcount.2]
      rw [hleft, hright, hsplit, List.take_append_drop]
    refine ⟨⟨left, some right, hwell⟩, ?_, ?_⟩
    · simp only [Spelling.text, Ipv6.serialize, hat, hn, hleftText, hrightText]
    · unfold Spelling.address
      congr 1

/-! ### Lower case -/

def Hextet.lower (hextet : Hextet) : Hextet where
  digits := hextet.digits.map Char.toLower
  length_digits := by
    rw [List.length_map]
    exact hextet.length_digits
  digits_hex := by
    intro c hc
    obtain ⟨d, hd, rfl⟩ := List.mem_map.mp hc
    exact (hexDigits_spec d (hextet.digits_hex d hd)).2.2.2.2.2.1

def Part.lower : Part → Part
  | .group hextet => .group hextet.lower
  | .dotted ip => .dotted ip

theorem Ipv4.lower_text (ip : Ipv4) : ip.text.map Char.toLower = ip.text := by
  refine (List.map_congr_left fun c hc => ?_).trans (List.map_id' _)
  rcases ip.mem_text hc with hc | rfl
  · exact toLower_of_isDigit hc
  · rfl

@[simp] theorem Part.text_lower (p : Part) : p.lower.text = p.text.map Char.toLower := by
  cases p with
  | group hextet => rfl
  | dotted ip => exact ip.lower_text.symm

@[simp] theorem Part.groups_lower (p : Part) : p.lower.groups = p.groups := by
  cases p with
  | group hextet =>
    show [List.foldl _ _ (hextet.digits.map Char.toLower)] = [List.foldl _ _ hextet.digits]
    rw [List.foldl_map]
    congr 1
    refine List.foldl_ext _ _ _ fun n c hc => ?_
    rw [(hexDigits_spec c (hextet.digits_hex c hc)).2.2.2.2.2.2]
  | dotted ip => rfl

@[simp] theorem Part.isGroup_lower (p : Part) : p.lower.isGroup = p.isGroup := by
  cases p with
  | group hextet => rfl
  | dotted ip => rfl

theorem partsGroups_lower (parts : List Part) :
    partsGroups (parts.map Part.lower) = partsGroups parts := by
  simp [partsGroups, List.flatMap_map]

theorem map_join (f : Char → Char) (hsep : f ':' = ':') (ws : List (List Char)) :
    ([':'].intercalate ws).map f = [':'].intercalate (ws.map (List.map f)) := by
  induction ws with
  | nil => rfl
  | cons w ws ih =>
    by_cases hne : ws = []
    · simp [hne]
    · rw [join_cons w hne, List.map_append, List.map_cons, ih, hsep, List.map_cons,
        join_cons _ (by simpa using hne)]

theorem partsText_lower (parts : List Part) :
    partsText (parts.map Part.lower) = (partsText parts).map Char.toLower := by
  rw [partsText, partsText, map_join _ (by decide), List.map_map, List.map_map]
  congr 1
  exact List.map_congr_left fun p _ => p.text_lower

def Spelling.lower (s : Spelling) : Spelling where
  left := s.left.map Part.lower
  right := s.right.map (List.map Part.lower)
  wellFormed := by
    have hwell := s.wellFormed
    cases hright : s.right with
    | none =>
      rw [hright] at hwell
      simpa [WellFormed, partsGroups_lower, ← List.map_dropLast] using hwell
    | some right =>
      rw [hright] at hwell
      simpa [WellFormed, partsGroups_lower, ← List.map_dropLast] using hwell

theorem Spelling.text_lower (s : Spelling) : s.lower.text = s.text.map Char.toLower := by
  obtain ⟨left, right, hwell⟩ := s
  cases right with
  | none => exact partsText_lower left
  | some right =>
    show partsText (left.map Part.lower) ++ ':' :: ':' :: partsText (right.map Part.lower) =
      (partsText left ++ ':' :: ':' :: partsText right).map Char.toLower
    rw [partsText_lower, partsText_lower, List.map_append]
    rfl

theorem Spelling.lower_lower_text (s : Spelling) :
    s.lower.text.map Char.toLower = s.lower.text := by
  rw [s.text_lower, List.map_map]
  refine List.map_congr_left fun c hc => ?_
  have hhex : ∀ c ∈ hexDigits, c.toLower.toLower = c.toLower := forall_mem_of_all (by decide)
  rcases s.mem_text hc with rfl | rfl | hc | hc
  · rfl
  · rfl
  · exact hhex c hc
  · rw [Function.comp_apply, toLower_of_isDigit hc, toLower_of_isDigit hc]

theorem Spelling.address_lower (s : Spelling) : s.lower.address = s.address := by
  have hgroups : s.lower.groups = s.groups := by
    obtain ⟨left, right, hwell⟩ := s
    cases right with
    | none => exact partsGroups_lower left
    | some right => simp only [Spelling.groups, Spelling.lower, Option.map_some, partsGroups_lower]
  unfold Spelling.address
  congr 1

/-! ### Mapped addresses -/

/-- `::ffff:a.b.c.d` -/
def Ipv4.mappedSpelling (ip : Ipv4) : Spelling where
  left := []
  right := some [.group .ffff, .dotted ip]
  wellFormed := ⟨by simp [partsGroups, Part.groups, Ipv4.groups], by simp, by simp [Part.isGroup]⟩

theorem Ipv4.mappedSpelling_text (ip : Ipv4) :
    ip.mappedSpelling.text = "::ffff:".toList ++ ip.text := by
  simp [Spelling.text, Ipv4.mappedSpelling, partsText, Part.text, Hextet.ffff,
    List.intercalate_cons_cons]

theorem Ipv4.mappedSpelling_mapped (ip : Ipv4) : ip.mappedSpelling.address.mapped = some ip := by
  have hgroups : ip.mappedSpelling.address.groups =
      [0, 0, 0, 0, 0, 65535, 256 * ip.a.val + ip.b.val, 256 * ip.c.val + ip.d.val] := rfl
  obtain ⟨a, b, c, d⟩ := ip
  simp only [Ipv6.mapped, hgroups, Option.some.injEq, Ipv4.mk.injEq]
  refine ⟨?_, ?_, ?_, ?_⟩
  all_goals
    ext
    simp only [Fin.ofNat]
    omega

end BrandBlitz.Lib.IpText
