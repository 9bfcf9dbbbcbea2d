import BrandBlitz.Lib.Words

/-!
# BrandBlitz.Lib.Csv

**Comma-separated values**, by the grammar of RFC 4180, where a line may end in LF or in CRLF.

* A field is spelled as it is, if it has none of the special characters, or between quotes, with
  every quote in it doubled. `SpellsFile` is the grammar: records in lines, with or without an end
  of the last one.
* `parse` reads a file from left to right. It accepts the texts of the grammar and returns what they
  spell (`parse_eq_some_iff`).
* A writer that spells fields in its own way is read back if its spellings are those of the grammar;
  if it never writes more than the grammar, and less for some fields, it is read back only without
  these (`parse_joined_iff`).
-/

namespace BrandBlitz.Lib.Csv

open BrandBlitz.Lib

abbrev Field := List Char

abbrev Record := List Field

/-! ### The grammar -/

/-- A field that needs no quotes. -/
def Plain (f : Field) : Prop := ∀ c ∈ f, c ≠ ',' ∧ c ≠ '"' ∧ c ≠ '\n' ∧ c ≠ '\r'

def doubled (f : Field) : List Char := f.flatMap fun c => if c = '"' then ['"', '"'] else [c]

def quoted (f : Field) : List Char := '"' :: (doubled f ++ ['"'])

def Spells (s : List Char) (f : Field) : Prop := s = f ∧ Plain f ∨ s = quoted f

inductive SpellsRecord : List Char → Record → Prop
  | last {s f} : Spells s f → SpellsRecord s [f]
  | more {s f t r} : Spells s f → SpellsRecord t r → SpellsRecord (s ++ ',' :: t) (f :: r)

inductive LineEnd : List Char → Prop
  | lf : LineEnd ['\n']
  | crlf : LineEnd ['\r', '\n']

/-- At the end of a text there is no record after the end of a line. -/
inductive SpellsFile : List Char → List Record → Prop
  | last {s r} : SpellsRecord s r → SpellsFile s [r]
  | ended {s r e} : SpellsRecord s r → LineEnd e → SpellsFile (s ++ e) [r]
  | more {s r e t rs} : SpellsRecord s r → LineEnd e → t ≠ [] → SpellsFile t rs →
      SpellsFile (s ++ (e ++ t)) (r :: rs)

/-! ### The parser -/

/-- Where the parser is in a field. -/
inductive Mode where
  | start | unquoted | quoted
  /-- after a quote that ends the field, or is the first of two -/
  | quoteSeen
  /-- after the first character of a CRLF -/
  | crSeen
deriving DecidableEq, Repr

/-- A field before the first record. -/
def consField (f : Field) : List Record → List Record
  | [] => []
  | r :: rs => (f :: r) :: rs

/-- A record that ends with the field `f`, where `rest` is read off what follows. -/
def endRecord (f : Field) (text : List Char) (rest : Option (List Record)) : Option (List Record) :=
  if text = [] then some [[f]] else rest.map ([f] :: ·)

/-- Can the field end here? -/
def Mode.CanEnd (mode : Mode) : Prop := mode ≠ .quoted ∧ mode ≠ .crSeen

instance (mode : Mode) : Decidable mode.CanEnd := inferInstanceAs (Decidable (_ ∧ _))

/-- The records of a text, the first one from the field on that `f` is the beginning of. -/
def parseFrom (mode : Mode) (f : Field) : List Char → Option (List Record)
  | [] => if mode.CanEnd then some [[f]] else none
  | c :: text =>
    if mode = .quoted then
      if c = '"' then parseFrom .quoteSeen f text else parseFrom .quoted (f ++ [c]) text
    else if mode = .crSeen then
      if c = '\n' then endRecord f text (parseFrom .start [] text) else none
    else if c = ',' then (parseFrom .start [] text).map (consField f)
    else if c = '\n' then endRecord f text (parseFrom .start [] text)
    else if c = '\r' then parseFrom .crSeen f text
    else if c = '"' then
      if mode = .start then parseFrom .quoted f text
      else if mode = .quoteSeen then parseFrom .quoted (f ++ ['"']) text
      else none
    else if mode = .quoteSeen then none
    else parseFrom .unquoted (f ++ [c]) text

def parse (text : List Char) : Option (List Record) := parseFrom .start [] text

example : parse "a,\"b \"\"c\"\"\"\r\n,d".toList =
    some [["a".toList, "b \"c\"".toList], [[], "d".toList]] := by decide

/-! ### What is accepted is spelled -/

section
variable {f : Field} {p s text : List Char} {r : Record} {rs records : List Record}

theorem spells_plain (h : Plain f) : Spells f f := .inl ⟨rfl, h⟩

theorem plain_concat {c : Char} (h : Plain f) (hc : c ≠ ',' ∧ c ≠ '"' ∧ c ≠ '\n' ∧ c ≠ '\r') :
    Plain (f ++ [c]) := by
  intro d hd
  rcases List.mem_append.mp hd with hd | hd
  · exact h d hd
  · rwa [List.mem_singleton.mp hd]

theorem doubled_append (f g : Field) : doubled (f ++ g) = doubled f ++ doubled g :=
  List.flatMap_append

theorem length_doubled (f : Field) : f.length ≤ (doubled f).length := by
  induction f with
  | nil => exact le_rfl
  | cons c f ih =>
      have hcons : doubled (c :: f) = doubled [c] ++ doubled f := doubled_append [c] f
      have hone : 1 ≤ (doubled [c]).length := by
        rw [doubled, List.flatMap_singleton]
        split
        · exact Nat.le_succ 1
        · exact le_rfl
      rw [hcons, List.length_append, List.length_cons]
      omega

/-- What has been read of a field. -/
def Begun (mode : Mode) (f : Field) (p : List Char) : Prop :=
  match mode with
  | .start => p = [] ∧ f = []
  | .unquoted => p = f ∧ Plain f
  | .quoted => p = '"' :: doubled f
  | .quoteSeen => p = quoted f
  | .crSeen => ∃ s, p = s ++ ['\r'] ∧ Spells s f

/-- Where a field can end, it has been spelled. -/
theorem Begun.spells {mode : Mode} (h : Begun mode f p) (hmode : mode.CanEnd) : Spells p f := by
  cases mode with
  | start =>
      obtain ⟨rfl, rfl⟩ := h
      exact spells_plain fun c hc => absurd hc List.not_mem_nil
  | unquoted => exact .inl h
  | quoted => exact absurd rfl hmode.1
  | quoteSeen => exact .inr h
  | crSeen => exact absurd rfl hmode.2

theorem SpellsFile.consField (hs : Spells s f) (h : SpellsFile text records) :
    SpellsFile (s ++ ',' :: text) (consField f records) := by
  cases h with
  | last hr => exact .last (.more hs hr)
  | ended hr he =>
      rw [← List.cons_append, ← List.append_assoc]
      exact .ended (.more hs hr) he
  | more hr he hne hrest =>
      rw [← List.cons_append, ← List.append_assoc]
      exact .more (.more hs hr) he hne hrest

theorem spellsFile_endRecord {e : List Char} (hs : Spells s f) (he : LineEnd e)
    (hrest : ∀ records, parseFrom .start [] text = some records → SpellsFile text records)
    (h : endRecord f text (parseFrom .start [] text) = some records) :
    SpellsFile (s ++ (e ++ text)) records := by
  unfold endRecord at h
  split at h
  next hnil =>
    obtain rfl := Option.some.inj h
    rw [hnil, List.append_nil]
    exact .ended (.last hs) he
  next hne =>
    obtain ⟨rest, hparse, rfl⟩ := Option.map_eq_some_iff.mp h
    exact .more (.last hs) he hne (hrest rest hparse)

/-- One more character between quotes. -/
theorem Begun.quoted_concat {c : Char} (h : Begun .quoted f p) (hc : c ≠ '"') :
    Begun .quoted (f ++ [c]) (p ++ [c]) := by
  have hsingle : doubled [c] = [c] := by
    rw [doubled, List.flatMap_singleton, if_neg hc]
  show p ++ [c] = '"' :: doubled (f ++ [c])
  rw [doubled_append, hsingle, show p = '"' :: doubled f from h, List.cons_append]

/-- The second of two quotes. -/
theorem Begun.quote_doubled (h : Begun .quoteSeen f p) :
    Begun .quoted (f ++ ['"']) (p ++ ['"']) := by
  show p ++ ['"'] = '"' :: doubled (f ++ ['"'])
  rw [doubled_append, show p = quoted f from h, quoted, List.cons_append, List.append_assoc]
  rfl

theorem Begun.unquoted_concat {mode : Mode} {c : Char} (h : Begun mode f p)
    (hmode : mode.CanEnd ∧ mode ≠ .quoteSeen)
    (hc : c ≠ ',' ∧ c ≠ '"' ∧ c ≠ '\n' ∧ c ≠ '\r') : Begun .unquoted (f ++ [c]) (p ++ [c]) := by
  cases mode with
  | start =>
      obtain ⟨rfl, rfl⟩ := h
      exact ⟨rfl, by simpa [Plain] using hc⟩
  | unquoted => exact ⟨by rw [h.1], plain_concat h.2 hc⟩
  | quoted => exact absurd rfl hmode.1.1
  | quoteSeen => exact absurd rfl hmode.2
  | crSeen => exact absurd rfl hmode.1.2

/-- Induction on the text, along the parser: `p` is what has been read of the field. -/
theorem spellsFile_of_parseFrom (mode : Mode) (f : Field) (text : List Char) :
    ∀ {p records}, Begun mode f p → parseFrom mode f text = some records →
      SpellsFile (p ++ text) records := by
  fun_induction parseFrom mode f text with
  | case1 mode f hmode =>
      intro p records hp h
      obtain rfl := Option.some.inj h
      rw [List.append_nil]
      exact .last (.last (hp.spells hmode))
  | case3 f text ih =>
      intro p records hp h
      rw [List.append_cons]
      exact ih (by rw [show p = '"' :: doubled f from hp]; rfl) h
  | case4 f c text hc ih =>
      intro p records hp h
      rw [List.append_cons]
      exact ih (hp.quoted_concat hc) h
  | case5 f text _ ih =>
      intro p records hp h
      obtain ⟨s, rfl, hs⟩ := hp
      have hend : SpellsFile (s ++ (['\r', '\n'] ++ text)) records :=
        spellsFile_endRecord hs .crlf (fun _ => ih ⟨rfl, rfl⟩) h
      rwa [List.append_assoc]
  | case7 mode f text hquoted hcr ih =>
      intro p records hp h
      obtain ⟨rest, hparse, rfl⟩ := Option.map_eq_some_iff.mp h
      exact (ih ⟨rfl, rfl⟩ hparse).consField (hp.spells ⟨hquoted, hcr⟩)
  | case8 mode f text hquoted hcr _ ih =>
      intro p records hp h
      exact spellsFile_endRecord (hp.spells ⟨hquoted, hcr⟩) .lf (fun _ => ih ⟨rfl, rfl⟩) h
  | case9 mode f text hquoted hcr _ _ ih =>
      intro p records hp h
      rw [List.append_cons]
      exact ih ⟨p, rfl, hp.spells ⟨hquoted, hcr⟩⟩ h
  | case10 f text _ _ _ _ _ ih =>
      intro p records hp h
      obtain ⟨rfl, rfl⟩ := hp
      exact ih rfl h
  | case11 f text _ _ _ _ _ _ ih =>
      intro p records hp h
      rw [List.append_cons]
      exact ih hp.quote_doubled h
  | case14 mode f c text hquoted hcr hcomma hlf hcr' hquote hseen ih =>
      intro p records hp h
      rw [List.append_cons]
      exact ih (hp.unquoted_concat ⟨⟨hquoted, hcr⟩, hseen⟩ ⟨hcomma, hquote, hlf, hcr'⟩) h
  | case2 | case6 | case12 | case13 =>
      -- the parser stops
      intro p records hp h
      cases h

/-! ### What is spelled is accepted -/

section
variable {mode : Mode} {c : Char}

theorem parseFrom_nil (hmode : mode.CanEnd) : parseFrom mode f [] = some [[f]] := if_pos hmode

theorem parseFrom_comma (hmode : mode.CanEnd) :
    parseFrom mode f (',' :: text) = (parseFrom .start [] text).map (consField f) :=
  (if_neg hmode.1).trans <| (if_neg hmode.2).trans rfl

theorem parseFrom_lineEnd {e : List Char} (hmode : mode.CanEnd) (he : LineEnd e) :
    parseFrom mode f (e ++ text) = endRecord f text (parseFrom .start [] text) := by
  cases he with
  | lf => exact (if_neg hmode.1).trans <| (if_neg hmode.2).trans rfl
  | crlf => exact (if_neg hmode.1).trans <| (if_neg hmode.2).trans rfl

theorem parseFrom_quoted (hc : c ≠ '"') :
    parseFrom .quoted f (c :: text) = parseFrom .quoted (f ++ [c]) text :=
  (if_pos rfl).trans (if_neg hc)

theorem parseFrom_unquoted (hmode : mode.CanEnd ∧ mode ≠ .quoteSeen)
    (hc : c ≠ ',' ∧ c ≠ '"' ∧ c ≠ '\n' ∧ c ≠ '\r') :
    parseFrom mode f (c :: text) = parseFrom .unquoted (f ++ [c]) text := by
  rw [parseFrom, if_neg hmode.1.1, if_neg hmode.1.2, if_neg hc.1, if_neg hc.2.2.1,
    if_neg hc.2.2.2, if_neg hc.2.1, if_neg hmode.2]

end

/-- What can follow a field. -/
inductive Follows : List Char → Prop
  | nil : Follows []
  | comma {t} : Follows (',' :: t)
  | ended {e t} : LineEnd e → Follows (e ++ t)

/-- It does not matter how the field was spelled. -/
theorem parseFrom_follows {mode : Mode} (hmode : mode.CanEnd) (h : Follows text) :
    parseFrom mode f text = parseFrom .unquoted f text := by
  have hunquoted : Mode.unquoted.CanEnd := by decide
  cases h with
  | nil => rw [parseFrom_nil hmode, parseFrom_nil hunquoted]
  | comma => rw [parseFrom_comma hmode, parseFrom_comma hunquoted]
  | ended he => rw [parseFrom_lineEnd hmode he, parseFrom_lineEnd hunquoted he]

theorem parseFrom_plain {mode : Mode} (hmode : mode.CanEnd ∧ mode ≠ .quoteSeen) (h : Plain s)
    (htext : Follows text) :
    parseFrom mode f (s ++ text) = parseFrom .unquoted (f ++ s) text := by
  induction s generalizing mode f with
  | nil => rw [List.nil_append, List.append_nil, parseFrom_follows hmode.1 htext]
  | cons c s ih =>
      rw [List.cons_append, parseFrom_unquoted hmode (h c List.mem_cons_self),
        ih (by decide) fun d hd => h d (List.mem_cons_of_mem c hd), ← List.append_cons]

theorem parseFrom_doubled (g : Field) :
    parseFrom .quoted f (doubled g ++ '"' :: text) = parseFrom .quoteSeen (f ++ g) text := by
  induction g generalizing f with
  | nil =>
      rw [List.append_nil]
      rfl
  | cons c g ih =>
      have hcons : doubled (c :: g) = doubled [c] ++ doubled g := doubled_append [c] g
      rw [hcons, List.append_assoc, List.append_cons f c g, ← ih]
      by_cases hc : c = '"'
      · rw [hc]
        rfl
      · rw [doubled, List.flatMap_singleton, if_neg hc]
        exact parseFrom_quoted hc

theorem parseFrom_spells (h : Spells s f) (htext : Follows text) :
    parseFrom .start [] (s ++ text) = parseFrom .unquoted f text := by
  rcases h with ⟨rfl, hplain⟩ | rfl
  · exact parseFrom_plain (by decide) hplain htext
  · have hquote : parseFrom .start [] (quoted f ++ text) =
        parseFrom .quoted [] (doubled f ++ '"' :: text) := by
      rw [quoted, List.cons_append, List.append_assoc]
      rfl
    rw [hquote, parseFrom_doubled, List.nil_append]
    exact parseFrom_follows (by decide) htext

/-- A record, where `rest` is read off what follows the field at its end. -/
theorem parseFrom_spellsRecord (rest : Option (List Record)) (h : SpellsRecord s r)
    (htext : Follows text)
    (hrest : ∀ f, parseFrom .unquoted f text = rest.map ([f] :: ·)) :
    parseFrom .start [] (s ++ text) = rest.map (r :: ·) := by
  induction h with
  | last hs => rw [parseFrom_spells hs htext, hrest]
  | more hs _ ih =>
      rw [List.append_assoc, List.cons_append, parseFrom_spells hs .comma,
        parseFrom_comma (by decide), ih, Option.map_map]
      rfl

theorem parse_of_spellsFile (h : SpellsFile text records) : parse text = some records := by
  have hunquoted : Mode.unquoted.CanEnd := by decide
  induction h with
  | @last s r hr =>
      have hrecord := parseFrom_spellsRecord (some []) hr .nil fun f => parseFrom_nil hunquoted
      rwa [List.append_nil] at hrecord
  | @ended s r e hr he =>
      refine parseFrom_spellsRecord (some []) hr ?_ fun f => ?_
      · rw [← List.append_nil e]
        exact .ended he
      · rw [← List.append_nil e, parseFrom_lineEnd hunquoted he]
        rfl
  | @more s r e t rs hr he hne _ ih =>
      refine parseFrom_spellsRecord (some rs) hr (.ended he) fun f => ?_
      rw [parseFrom_lineEnd hunquoted he, endRecord, if_neg hne, show parseFrom _ _ t = _ from ih]

/-- **The parser accepts the texts of the grammar.** -/
theorem parse_eq_some_iff : parse text = some records ↔ SpellsFile text records := by
  constructor
  · exact spellsFile_of_parseFrom .start [] text ⟨rfl, rfl⟩
  · exact parse_of_spellsFile

end

/-! ### Writers -/

/-- A record, as a writer spells it. -/
def line (escape : Field → List Char) (r : Record) : List Char := [','].intercalate (r.map escape)

/-- Lines with separators between them. -/
def joined (escape : Field → List Char) (rows : List Record) : List Char :=
  ['\n'].intercalate (rows.map (line escape))

/-- Lines that all end. -/
def lines (escape : Field → List Char) (rows : List Record) : List Char :=
  rows.flatMap fun r => line escape r ++ ['\n']

section
variable {escape : Field → List Char} {bad : Field → Bool} {text : List Char} {r : Record}
  {rows : List Record}

theorem line_cons (f : Field) (hne : r ≠ []) :
    line escape (f :: r) = escape f ++ ',' :: line escape r := by
  rw [line, List.map_cons, Words.join_cons _ (by simpa using hne), line]

theorem line_ne_nil (h : 2 ≤ r.length) : line escape r ≠ [] := by
  match r, h with
  | f :: g :: rest, _ =>
      rw [line_cons f (List.cons_ne_nil g rest)]
      exact List.append_ne_nil_of_right_ne_nil _ (List.cons_ne_nil _ _)

theorem joined_cons (r : Record) (hne : rows ≠ []) :
    joined escape (r :: rows) = line escape r ++ (['\n'] ++ joined escape rows) := by
  rw [joined, List.map_cons, Words.join_cons _ (by simpa using hne), joined]
  rfl

theorem joined_singleton (r : Record) : joined escape [r] = line escape r :=
  List.intercalate_singleton

theorem joined_ne_nil (hne : rows ≠ []) (hwide : ∀ r ∈ rows, 2 ≤ r.length) :
    joined escape rows ≠ [] := by
  match rows, hne with
  | r :: rest, _ =>
      have hline : line escape r ≠ [] := line_ne_nil (hwide r List.mem_cons_self)
      by_cases hrest : rest = []
      · rwa [hrest, joined_singleton]
      · rw [joined_cons r hrest]
        exact List.append_ne_nil_of_left_ne_nil hline _

/-! ### Reading back -/

theorem spellsRecord_line (hne : r ≠ []) (h : ∀ f ∈ r, Spells (escape f) f) :
    SpellsRecord (line escape r) r := by
  induction r with
  | nil => exact absurd rfl hne
  | cons f r ih =>
      have hf := h f List.mem_cons_self
      by_cases hr : r = []
      · rw [hr, line, List.map_singleton, List.intercalate_singleton]
        exact .last hf
      · rw [line_cons f hr]
        exact .more hf (ih hr fun g hg => h g (List.mem_cons_of_mem f hg))

theorem spellsFile_joined (hne : rows ≠ []) (hwide : ∀ r ∈ rows, 2 ≤ r.length)
    (h : ∀ r ∈ rows, ∀ f ∈ r, Spells (escape f) f) : SpellsFile (joined escape rows) rows := by
  induction rows with
  | nil => exact absurd rfl hne
  | cons r rows ih =>
      have hlength := hwide r List.mem_cons_self
      have hr : SpellsRecord (line escape r) r :=
        spellsRecord_line (List.ne_nil_of_length_pos (by omega)) (h r List.mem_cons_self)
      have hwide := fun s hs => hwide s (List.mem_cons_of_mem r hs)
      by_cases hrows : rows = []
      · rw [hrows, joined_singleton]
        exact .last hr
      · rw [joined_cons r hrows]
        exact .more hr .lf (joined_ne_nil hrows hwide)
          (ih hrows hwide fun s hs => h s (List.mem_cons_of_mem r hs))

/-- **Lines in the spelling of the grammar are read back.** -/
theorem parse_lines (hne : rows ≠ []) (hrows : ∀ r ∈ rows, r ≠ [])
    (h : ∀ r ∈ rows, ∀ f ∈ r, Spells (escape f) f) : parse (lines escape rows) = some rows := by
  refine parse_of_spellsFile ?_
  induction rows with
  | nil => exact absurd rfl hne
  | cons r rows ih =>
      have hr : SpellsRecord (line escape r) r :=
        spellsRecord_line (hrows r List.mem_cons_self) (h r List.mem_cons_self)
      rw [lines, List.flatMap_cons, List.append_assoc]
      by_cases hnil : rows = []
      · rw [hnil, List.flatMap_nil, List.append_nil]
        exact .ended hr .lf
      · obtain ⟨s, rest, rfl⟩ := List.exists_cons_of_ne_nil hnil
        refine .more hr .lf ?_ (ih hnil (fun s hs => hrows s (List.mem_cons_of_mem r hs))
          fun s hs => h s (List.mem_cons_of_mem r hs))
        simp

/-- Where the writer writes no more than the grammar, and less for bad fields. -/
theorem length_line (hlength : ∀ f s, Spells s f →
      (escape f).length + (if bad f = true then 1 else 0) ≤ s.length)
    (h : SpellsRecord text r) : (line escape r).length + r.countP bad ≤ text.length := by
  induction h with
  | @last s f hs =>
      have hf := hlength f s hs
      rw [line, List.map_singleton, List.intercalate_singleton, List.countP_singleton]
      exact hf
  | @more s f t r hs hr ih =>
      have hf := hlength f s hs
      have hne : r ≠ [] := by
        rintro rfl
        cases hr
      rw [line_cons f hne, List.countP_cons]
      simp only [List.length_append, List.length_cons]
      omega

theorem length_joined (hlength : ∀ f s, Spells s f →
      (escape f).length + (if bad f = true then 1 else 0) ≤ s.length)
    (h : SpellsFile text rows) :
    (joined escape rows).length + rows.flatten.countP bad ≤ text.length := by
  induction h with
  | last hr =>
      have hline := length_line hlength hr
      rwa [joined_singleton, List.flatten_singleton]
  | ended hr he =>
      have hline := length_line hlength hr
      rw [joined_singleton, List.flatten_singleton, List.length_append]
      omega
  | @more s r e t rs hr he hne hrest ih =>
      have hline := length_line hlength hr
      have hend : 1 ≤ e.length := by
        cases he with
        | lf => exact le_rfl
        | crlf => exact Nat.le_succ 1
      have hrs : rs ≠ [] := by
        rintro rfl
        cases hrest
      rw [joined_cons r hrs, List.flatten_cons, List.countP_append]
      simp only [List.length_append, List.length_singleton]
      omega

/-- **When joined lines are read back**: if no field is bad. -/
theorem parse_joined_iff (hspells : ∀ f, bad f = false → Spells (escape f) f)
    (hlength : ∀ f s, Spells s f →
      (escape f).length + (if bad f = true then 1 else 0) ≤ s.length)
    (hne : rows ≠ []) (hwide : ∀ r ∈ rows, 2 ≤ r.length) :
    parse (joined escape rows) = some rows ↔ ∀ r ∈ rows, ∀ f ∈ r, bad f = false := by
  constructor
  · intro h r hr f hf
    -- the text is too short to be a spelling of the rows with a bad field
    have hcount := length_joined hlength (parse_eq_some_iff.mp h)
    have hzero : rows.flatten.countP bad = 0 := by omega
    exact eq_false_of_ne_true
      (List.countP_eq_zero.mp hzero f (List.mem_flatten_of_mem hr hf))
  · intro h
    exact parse_of_spellsFile
      (spellsFile_joined hne hwide fun r hr f hf => hspells f (h r hr f hf))

end

end BrandBlitz.Lib.Csv
