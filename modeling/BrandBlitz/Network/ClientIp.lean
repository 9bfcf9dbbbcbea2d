import BrandBlitz.Lib.IpText
import BrandBlitz.Stellar.Client

/-!
# BrandBlitz.Network.ClientIp

**The key of a client**: `normalizeClientIp` of `apps/api/src/middleware/rate-limit.ts`.

An IPv4 client is known by its address and an IPv6 client by its /64. An IPv4 address that is mapped
into IPv6 is found by the text that the address has: it must be written `::ffff:a.b.c.d`. Any other
text of it gives the key of the /64 that all mapped addresses are in.
-/

namespace BrandBlitz.Network

open BrandBlitz.Lib.IpText BrandBlitz.Lib.NumberText BrandBlitz.Lib.Words

/-! ### Texts of addresses -/

/-- The characters of the name of an interface. -/
def isZoneChar (c : Char) : Bool := c.isAlphanum || c = '-' || c = '.' || c = ':'

/-- The name of an interface, or nothing. -/
abbrev Zone := { name : Text // ∀ c ∈ name, isZoneChar c = true }

def Zone.text (zone : Zone) : Text := if zone.val = [] then [] else '%' :: zone.val

/-- A valid text of an address. -/
inductive Literal where
  | ipv4 (ip : Ipv4)
  | ipv6 (spelling : Spelling) (zone : Zone)

/-- Without the zone. -/
def Literal.base : Literal → Text
  | .ipv4 ip => ip.text
  | .ipv6 s _ => s.text

def Literal.plain : Literal → Text
  | .ipv4 ip => ip.text
  | .ipv6 s zone => s.text ++ zone.text

def Literal.text (l : Literal) (bracketed : Bool) : Text :=
  if bracketed then '[' :: (l.plain ++ [']']) else l.plain

/-- `isIP` of Node, which knows the valid texts, and `toLowerCase` of ASCII. -/
structure Node where
  isIP : Text → Nat
  toLowerCase : Text → Text
  isIP_eq_four : ∀ text, isIP text = 4 ↔ ∃ ip : Ipv4, ip.text = text
  isIP_eq_six : ∀ text, isIP text = 6 ↔
    ∃ (s : Spelling) (zone : Zone), s.text ++ zone.text = text
  toLowerCase_eq : ∀ text : Text, (∀ c ∈ text, c.toNat < 128) →
    toLowerCase text = text.map Char.toLower

/-! ### Key derivation -/

/-- `Number.parseInt(part || "0", 16).toString(16)`, for a part without blanks, sign and `0x`. -/
def hexNumber (part : Text) : Text :=
  let digits := (if part = [] then ['0'] else part).takeWhile (· ∈ hexDigits)
  if digits = [] then "NaN".toList else toHex (ofHex digits)

/-- `^::ffff:(\d{1,3}(?:\.\d{1,3}){3})$` -/
def ipv4Mapped (text : Text) : Option Text :=
  if "::ffff:".toList.isPrefixOf text ∧ isQuad (text.drop 7) then some (text.drop 7) else none

namespace Node

variable (n : Node)

def parseIpv4Hextets (part : Text) : Option (List Text) :=
  if n.isIP part ≠ 4 then none
  else
    match (part.splitOn '.').map (Nat.ofDigitChars 10 · 0) with
    | [a, b, c, d] => some [toHex (a <<< 8 ||| b), toHex (c <<< 8 ||| d)]
    -- there is no such IPv4 address
    | _ => none

def expandParts (value : Text) : List Text :=
  if value = [] then []
  else (value.splitOn ':').flatMap fun part => (n.parseIpv4Hextets part).getD [part]

def expandIpv6 (address : Text) : Option (List Text) :=
  let withoutZone := n.toLowerCase (address.takeWhile (· ≠ '%'))
  let halves := splitDouble ':' withoutZone
  if 2 < halves.length then none
  else
    let left := n.expandParts (halves.headD [])
    let right := if halves.length = 2 then n.expandParts (halves.getD 1 []) else []
    let missing : Int := 8 - left.length - right.length
    if missing < 0 ∨ (halves.length = 1 ∧ missing ≠ 0) then none
    else some ((left ++ List.replicate missing.toNat ['0'] ++ right).map hexNumber)

/-- `normalizeClientIp`, from where brackets, zone and upper case are gone. -/
def addressKey (forwardedIp withoutZone : Text) : Text :=
  if n.isIP withoutZone = 4 then withoutZone
  else
    match (ipv4Mapped withoutZone).filter (n.isIP · = 4) with
    | some mapped => mapped
    | none =>
      if n.isIP withoutZone ≠ 6 then if forwardedIp = [] then "anonymous".toList else forwardedIp
      else
        match n.expandIpv6 withoutZone with
        | none => withoutZone
        | some hextets => [':'].intercalate (hextets.take 4) ++ "::/64".toList

def normalizeClientIp (ip : Option Text) : Text :=
  match ip.filter (· ≠ []) with
  | none => "anonymous".toList
  | some ip =>
    let forwardedIp := trim (ip.takeWhile (· ≠ ','))
    let unwrapped :=
      if forwardedIp.head? = some '[' ∧ ']' ∈ forwardedIp then
        (forwardedIp.take (forwardedIp.idxOf ']')).drop 1
      else forwardedIp
    n.addressKey forwardedIp (n.toLowerCase (unwrapped.takeWhile (· ≠ '%')))

end Node

/-! ### Clients -/

/-- An IPv4 address, or an IPv6 network by its first four groups. -/
inductive Client where
  | v4 (ip : Ipv4)
  | network (groups : List Nat)
deriving DecidableEq

def clientOf (ip : Ipv6) : Client :=
  match ip.mapped with
  | some v4 => .v4 v4
  | none => .network (ip.groups.take 4)

/-- The client that a text is of. -/
def Literal.client : Literal → Client
  | .ipv4 ip => .v4 ip
  | .ipv6 s _ => clientOf s.address

/-- Not the text, up to the case of letters, that mapped addresses are known by. -/
def Literal.Hidden : Literal → Prop
  | .ipv4 _ => False
  | .ipv6 s _ => s.address.mapped ≠ none ∧
      ∀ ip : Ipv4, s.text.map Char.toLower ≠ "::ffff:".toList ++ ip.text

/-- `::/64` -/
def zeroNetwork : Client := .network [0, 0, 0, 0]

/-- **When keys identify two clients.** A hidden address goes together with hidden addresses and with
the network `::/64`. -/
def KeysFit (l m : Literal) : Prop :=
  (l.Hidden → m.Hidden → l.client = m.client) ∧
    (l.Hidden → ¬ m.Hidden → m.client ≠ l.client ∧ m.client ≠ zeroNetwork) ∧
    (¬ l.Hidden → m.Hidden → l.client ≠ m.client ∧ l.client ≠ zeroNetwork)

def Client.key : Client → Text
  | .v4 ip => ip.text
  | .network groups => hexText groups ++ "::/64".toList

/-! ### What a text is cut to -/

section

variable {n : Node} {l m : Literal} {c : Char} {text : Text}

/-- A property of ASCII characters, checked for each of them. -/
theorem forall_ascii {P : Char → Prop} (h : ∀ k, k < 128 → P (Char.ofNat k)) (hc : c.toNat < 128) :
    P c := by
  have hk := h c.toNat hc
  rwa [Char.ofNat_toNat] at hk

theorem isZoneChar_spec (h : isZoneChar c = true) :
    c.toNat < 128 ∧ c ≠ ',' ∧ c ≠ '%' ∧ c ≠ '[' ∧ c ≠ ']' ∧ isJsSpace c = false := by
  have hlt : c.toNat < 128 := by
    simp only [isZoneChar, Bool.or_eq_true, decide_eq_true_eq] at h
    rcases h with ((h | rfl) | rfl) | rfl
    · have halpha : ((c.isUpper || c.isLower) || c.isDigit) = true := h
      rw [Bool.or_eq_true, Bool.or_eq_true] at halpha
      rcases halpha with (hupper | hlower) | hdigit
      · exact Nat.lt_of_le_of_lt (isUpper_range hupper).2 (by decide)
      · exact Nat.lt_of_le_of_lt (isLower_range hlower).2 (by decide)
      · exact Nat.lt_of_le_of_lt (isDigit_range hdigit).2 (by decide)
    all_goals decide
  exact ⟨hlt, forall_ascii (P := fun c => isZoneChar c = true →
    c ≠ ',' ∧ c ≠ '%' ∧ c ≠ '[' ∧ c ≠ ']' ∧ isJsSpace c = false) (by decide +kernel) hlt h⟩

theorem isZoneChar_of_mem_base (h : c ∈ l.base) : isZoneChar c = true := by
  have hdigit (hc : c.isDigit = true) : isZoneChar c = true := by
    simp [isZoneChar, Char.isAlphanum, hc]
  have hhex : ∀ c ∈ hexDigits, isZoneChar c = true := forall_mem_of_all (by decide)
  cases l with
  | ipv4 ip =>
    rcases ip.mem_text h with h | rfl
    · exact hdigit h
    · rfl
  | ipv6 s zone =>
    rcases s.mem_text h with rfl | rfl | h | h
    · rfl
    · rfl
    · exact hhex c h
    · exact hdigit h

/-- The zone is all that follows the address. -/
theorem plain_eq (l : Literal) : ∃ zone : Zone, l.plain = l.base ++ zone.text := by
  cases l with
  | ipv4 ip => exact ⟨⟨[], by simp⟩, (List.append_nil _).symm⟩
  | ipv6 s zone => exact ⟨zone, rfl⟩

theorem mem_plain (h : c ∈ l.plain) : isZoneChar c = true ∨ c = '%' := by
  obtain ⟨zone, hplain⟩ := plain_eq l
  rw [hplain, List.mem_append, Zone.text] at h
  split at h
  next => exact .inl (isZoneChar_of_mem_base (by simpa using h))
  next =>
    rcases h with h | h
    · exact .inl (isZoneChar_of_mem_base h)
    · rcases List.mem_cons.mp h with h | h
      · exact .inr h
      · exact .inl (zone.property c h)

theorem mem_plain_spec (h : c ∈ l.plain) :
    c ≠ ',' ∧ c ≠ '[' ∧ c ≠ ']' ∧ isJsSpace c = false := by
  rcases mem_plain h with hc | rfl
  · have hspec := isZoneChar_spec hc
    exact ⟨hspec.2.1, hspec.2.2.2.1, hspec.2.2.2.2.1, hspec.2.2.2.2.2⟩
  · decide

theorem trim_eq_self (h : ∀ c ∈ text, isJsSpace c = false) : trim text = text := by
  have hdrop {text : Text} (h : ∀ c ∈ text, isJsSpace c = false) :
      text.dropWhile isJsSpace = text := by
    cases text with
    | nil => rfl
    | cons c text => exact List.dropWhile_cons_of_neg (by simp [h c List.mem_cons_self])
  rw [trim, hdrop h, hdrop fun c hc => h c (List.mem_reverse.mp hc), List.reverse_reverse]

theorem takeWhile_ne_eq_self (h : ∀ d ∈ text, d ≠ c) : text.takeWhile (· ≠ c) = text :=
  List.takeWhile_eq_self_iff.mpr fun d hd => by simpa using h d hd

theorem text_ne_nil (l : Literal) (bracketed : Bool) : l.text bracketed ≠ [] := by
  have hbase : l.base ≠ [] := by
    cases l with
    | ipv4 ip => exact List.ne_nil_of_mem ip.dot_mem_text
    | ipv6 s zone => exact List.ne_nil_of_mem s.colon_mem_text
  obtain ⟨zone, hplain⟩ := plain_eq l
  cases bracketed with
  | true => exact List.cons_ne_nil _ _
  | false =>
    show l.plain ≠ []
    rw [hplain]
    exact List.append_ne_nil_of_left_ne_nil hbase _

/-- **Brackets, zone and upper case are taken away.** -/
theorem normalizeClientIp_text (n : Node) (l : Literal) (bracketed : Bool) :
    n.normalizeClientIp (some (l.text bracketed)) =
      n.addressKey (l.text bracketed) (l.base.map Char.toLower) := by
  have hchar : ∀ c ∈ l.text bracketed, c ≠ ',' ∧ isJsSpace c = false := by
    intro c hc
    cases bracketed with
    | true =>
      rcases List.mem_cons.mp hc with rfl | hc
      · decide
      · rcases List.mem_append.mp hc with hc | hc
        · exact ⟨(mem_plain_spec hc).1, (mem_plain_spec hc).2.2.2⟩
        · rw [List.mem_singleton.mp hc]
          decide
    | false => exact ⟨(mem_plain_spec hc).1, (mem_plain_spec hc).2.2.2⟩
  have hforwarded : trim ((l.text bracketed).takeWhile (· ≠ ',')) = l.text bracketed := by
    rw [takeWhile_ne_eq_self fun c hc => (hchar c hc).1, trim_eq_self fun c hc => (hchar c hc).2]
  have hunwrapped :
      (if (l.text bracketed).head? = some '[' ∧ ']' ∈ l.text bracketed then
        ((l.text bracketed).take ((l.text bracketed).idxOf ']')).drop 1
      else l.text bracketed) = l.plain := by
    cases bracketed with
    | true =>
      have hnot : ']' ∉ '[' :: l.plain := by
        intro hmem
        rcases List.mem_cons.mp hmem with hmem | hmem
        · exact absurd hmem (by decide)
        · exact (mem_plain_spec hmem).2.2.1 rfl
      have htext : l.text true = ('[' :: l.plain) ++ [']'] := rfl
      rw [htext, if_pos ⟨rfl, by simp⟩, List.idxOf_append_of_notMem hnot]
      simp
    | false =>
      refine if_neg fun hbracket => ?_
      exact (mem_plain_spec (List.mem_of_mem_head? hbracket.1)).2.1 rfl
  have hzone : l.plain.takeWhile (· ≠ '%') = l.base := by
    have hbase : ∀ c ∈ l.base, c ≠ '%' := fun c hc =>
      (isZoneChar_spec (isZoneChar_of_mem_base hc)).2.2.1
    obtain ⟨zone, hplain⟩ := plain_eq l
    rw [hplain, List.takeWhile_append_of_pos fun c hc => by simpa using hbase c hc, Zone.text]
    split
    next => simp
    next => simp
  have hlower : n.toLowerCase l.base = l.base.map Char.toLower :=
    n.toLowerCase_eq _ fun c hc => (isZoneChar_spec (isZoneChar_of_mem_base hc)).1
  unfold Node.normalizeClientIp
  simp only [Option.filter_some, decide_true, text_ne_nil l bracketed, ne_eq, not_false_eq_true,
    ↓reduceIte]
  simp only [← ne_eq]
  rw [hforwarded, hunwrapped, hzone, hlower]

/-! ### The groups of a text -/

theorem isIP_ne_four (h : '.' ∉ text) : n.isIP text ≠ 4 := by
  intro hfour
  obtain ⟨ip, rfl⟩ := (n.isIP_eq_four text).mp hfour
  exact h ip.dot_mem_text

theorem isIP_text (n : Node) (ip : Ipv4) : n.isIP ip.text = 4 := (n.isIP_eq_four _).mpr ⟨ip, rfl⟩

theorem isIP_spelling (n : Node) (s : Spelling) : n.isIP s.text = 6 :=
  (n.isIP_eq_six _).mpr ⟨s, ⟨[], by simp⟩, List.append_nil _⟩

/-- The texts that `isIP` knows are the valid ones. -/
theorem isIP_iff (n : Node) (text : Text) :
    n.isIP text = 4 ∨ n.isIP text = 6 ↔ ∃ l : Literal, l.plain = text := by
  rw [n.isIP_eq_four, n.isIP_eq_six]
  constructor
  · rintro (⟨ip, rfl⟩ | ⟨s, zone, rfl⟩)
    · exact ⟨.ipv4 ip, rfl⟩
    · exact ⟨.ipv6 s zone, rfl⟩
  · rintro ⟨l, rfl⟩
    cases l with
    | ipv4 ip => exact .inl ⟨ip, rfl⟩
    | ipv6 s zone => exact .inr ⟨s, zone, rfl⟩

theorem hexNumber_eq (hne : text ≠ []) (h : ∀ c ∈ text, c ∈ hexDigits) :
    hexNumber text = toHex (ofHex text) := by
  have htake : text.takeWhile (· ∈ hexDigits) = text :=
    List.takeWhile_eq_self_iff.mpr fun c hc => by simpa using h c hc
  unfold hexNumber
  simp only
  rw [if_neg hne, htake, if_neg hne]

theorem hexNumber_toHex (k : Nat) : hexNumber (toHex k) = toHex k := by
  rw [hexNumber_eq (toHex_ne_nil k) fun c hc => (mem_toHex hc).1, ofHex_toHex]

theorem shiftLeft_or (a b : Fin 256) : a.val <<< 8 ||| b.val = 256 * a.val + b.val := by
  rw [← Nat.shiftLeft_add_eq_or_of_lt b.isLt, Nat.shiftLeft_eq]
  omega

theorem parseIpv4Hextets_part (n : Node) (p : Part) :
    ((n.parseIpv4Hextets p.text).getD [p.text]).map hexNumber = p.groups.map toHex := by
  cases p with
  | group hextet =>
    have hnone : n.parseIpv4Hextets (Part.group hextet).text = none :=
      if_pos (isIP_ne_four hextet.dot_not_mem)
    rw [hnone]
    have hdigits := hexNumber_eq (List.length_pos_iff.mp hextet.length_digits.1) hextet.digits_hex
    exact congrArg (fun part => [part]) hdigits
  | dotted ip =>
    have hsome : n.parseIpv4Hextets (Part.dotted ip).text = some (ip.groups.map toHex) := by
      show n.parseIpv4Hextets ip.text = _
      unfold Node.parseIpv4Hextets
      rw [if_neg (by simp [isIP_text]), ip.octets_text]
      simp [Ipv4.octets, Ipv4.groups, shiftLeft_or]
    rw [hsome, Option.getD_some, List.map_map]
    exact List.map_congr_left fun k _ => hexNumber_toHex k

theorem expandParts_partsText (n : Node) (parts : List Part) :
    (n.expandParts (partsText parts)).map hexNumber = (partsGroups parts).map toHex := by
  by_cases hne : parts = []
  · subst hne
    rfl
  · rw [Node.expandParts, if_neg (mt partsText_eq_nil_iff.mp hne), splitOn_partsText hne]
    clear hne
    induction parts with
    | nil => rfl
    | cons p parts ih =>
      have hgroups : partsGroups (p :: parts) = p.groups ++ partsGroups parts := rfl
      rw [List.map_cons, List.flatMap_cons, List.map_append, parseIpv4Hextets_part, ih, hgroups,
        List.map_append]

theorem length_expandParts (n : Node) (parts : List Part) :
    (n.expandParts (partsText parts)).length = (partsGroups parts).length := by
  have hlength := congrArg List.length (expandParts_partsText n parts)
  rwa [List.length_map, List.length_map] at hlength

/-- **A text is expanded to the groups of its address.** -/
theorem expandIpv6_text (n : Node) {s : Spelling} (hlower : s.text.map Char.toLower = s.text) :
    n.expandIpv6 s.text = some (s.address.groups.map toHex) := by
  have hchar : ∀ c ∈ s.text, c.toNat < 128 ∧ c ≠ '%' := by
    intro c hc
    have hspec := isZoneChar_spec (isZoneChar_of_mem_base (l := .ipv6 s ⟨[], by simp⟩) hc)
    exact ⟨hspec.1, hspec.2.2.1⟩
  have hwhole : n.toLowerCase (s.text.takeWhile (· ≠ '%')) = s.text := by
    rw [takeWhile_ne_eq_self fun c hc => (hchar c hc).2,
      n.toLowerCase_eq _ fun c hc => (hchar c hc).1, hlower]
  unfold Node.expandIpv6
  simp only
  rw [hwhole, s.splitDouble_text]
  obtain ⟨left, right, hwell⟩ := s
  have hzero : hexNumber ['0'] = toHex 0 := by decide
  cases right with
  | none =>
    have hleft := length_expandParts n left
    rw [show (partsGroups left).length = 8 from hwell.1] at hleft
    have hgroups := expandParts_partsText n left
    simp [hleft, hgroups, Spelling.address, Spelling.groups]
  | some right =>
    have hcount : (partsGroups left).length + (partsGroups right).length ≤ 7 := hwell.1
    have hleft := expandParts_partsText n left
    have hright := expandParts_partsText n right
    have hmissing : ¬ ((8 : Int) - (partsGroups left).length - (partsGroups right).length < 0) := by
      omega
    have hnat : ((8 : Int) - (partsGroups left).length - (partsGroups right).length).toNat =
        8 - (partsGroups left).length - (partsGroups right).length := by
      omega
    simp [length_expandParts, hleft, hright, hmissing, hnat, hzero, Spelling.address,
      Spelling.groups]

/-! ### The key of a text -/

theorem ipv4Mapped_eq_some_iff {mapped : Text} :
    (ipv4Mapped text).filter (n.isIP · = 4) = some mapped ↔
      ∃ ip : Ipv4, text = "::ffff:".toList ++ ip.text ∧ ip.text = mapped := by
  constructor
  · intro h
    obtain ⟨hmatch, hfour⟩ := Option.filter_eq_some_iff.mp h
    unfold ipv4Mapped at hmatch
    split at hmatch
    next hshape =>
      obtain ⟨rest, rfl⟩ := List.isPrefixOf_iff_prefix.mp hshape.1
      have hrest : mapped = rest := (Option.some.inj hmatch).symm
      obtain ⟨ip, rfl⟩ := (n.isIP_eq_four mapped).mp (by simpa using hfour)
      exact ⟨ip, by rw [hrest], rfl⟩
    next => cases hmatch
  · rintro ⟨ip, rfl, rfl⟩
    have hmatch : ipv4Mapped ("::ffff:".toList ++ ip.text) = some ip.text :=
      if_pos ⟨List.isPrefixOf_iff_prefix.mpr (List.prefix_append _ _), ip.isQuad_text⟩
    rw [hmatch, Option.filter_some, isIP_text]
    rfl

/-- The client that a text gets the key of. -/
noncomputable def Literal.seenAs (l : Literal) : Client :=
  open Classical in if l.Hidden then zeroNetwork else l.client

/-- Where mapped addresses are, if they are hidden. -/
theorem mapped_groups {ip : Ipv6} (h : ip.mapped ≠ none) : ip.groups.take 4 = [0, 0, 0, 0] := by
  unfold Ipv6.mapped at h
  split at h
  next heq => rw [heq]; rfl
  next => exact absurd rfl h

/-- The text that mapped addresses are known by. -/
theorem seenAs_of_written {s : Spelling} {ip : Ipv4} (zone : Zone)
    (h : s.text.map Char.toLower = "::ffff:".toList ++ ip.text) :
    (Literal.ipv6 s zone).seenAs = .v4 ip := by
  have haddress : s.address.mapped = some ip := by
    rw [← s.text_lower, ← ip.mappedSpelling_text] at h
    rw [← s.address_lower, address_of_text h, ip.mappedSpelling_mapped]
  have hclient : (Literal.ipv6 s zone).client = .v4 ip := by
    simp [Literal.client, clientOf, haddress]
  rw [← hclient]
  exact if_neg fun hhidden => hhidden.2 ip h

/-- Any other text, of whatever address. -/
theorem seenAs_of_not_written {s : Spelling} (zone : Zone)
    (h : ∀ ip : Ipv4, s.text.map Char.toLower ≠ "::ffff:".toList ++ ip.text) :
    (Literal.ipv6 s zone).seenAs = .network (s.address.groups.take 4) := by
  cases hmapped : s.address.mapped with
  | none =>
    have hclient : (Literal.ipv6 s zone).client = .network (s.address.groups.take 4) := by
      simp [Literal.client, clientOf, hmapped]
    rw [← hclient]
    exact if_neg fun hhidden => hhidden.1 hmapped
  | some ip =>
    have hne : s.address.mapped ≠ none := by simp [hmapped]
    rw [mapped_groups hne]
    exact if_pos ⟨hne, h⟩

/-- **The key of a text.** -/
theorem normalizeClientIp_eq (n : Node) (l : Literal) (bracketed : Bool) :
    n.normalizeClientIp (some (l.text bracketed)) = l.seenAs.key := by
  rw [normalizeClientIp_text]
  cases l with
  | ipv4 ip =>
    have hseen : (Literal.ipv4 ip).seenAs = .v4 ip := if_neg id
    rw [hseen]
    show n.addressKey _ (ip.text.map Char.toLower) = ip.text
    rw [ip.lower_text, Node.addressKey, if_pos (isIP_text n ip)]
  | ipv6 s zone =>
    show n.addressKey _ (s.text.map Char.toLower) = _
    have hfour : n.isIP s.lower.text ≠ 4 := by
      rw [isIP_spelling]
      decide
    rw [← s.text_lower, Node.addressKey, if_neg hfour]
    by_cases hwritten : ∃ ip : Ipv4, s.lower.text = "::ffff:".toList ++ ip.text
    · obtain ⟨ip, htext⟩ := hwritten
      rw [(ipv4Mapped_eq_some_iff (n := n)).mpr ⟨ip, htext, rfl⟩,
        seenAs_of_written zone (s.text_lower.symm.trans htext)]
      rfl
    · have hmatch : (ipv4Mapped s.lower.text).filter (n.isIP · = 4) = none := by
        refine Option.eq_none_iff_forall_ne_some.mpr fun mapped hmapped => hwritten ?_
        obtain ⟨ip, htext, -⟩ := ipv4Mapped_eq_some_iff.mp hmapped
        exact ⟨ip, htext⟩
      have hsix : ¬ n.isIP s.lower.text ≠ 6 := fun hne => hne (isIP_spelling n _)
      have hseen := seenAs_of_not_written zone fun ip htext =>
        hwritten ⟨ip, s.text_lower.trans htext⟩
      rw [hmatch, hseen]
      simp only [if_neg hsix, expandIpv6_text n s.lower_lower_text, s.address_lower, Client.key,
        hexText, List.map_take]

/-! ### Keys and clients -/

theorem key_injective {c d : Client} (hc : ∀ groups, c = .network groups → groups ≠ [])
    (hd : ∀ groups, d = .network groups → groups ≠ []) (h : c.key = d.key) : c = d := by
  have hslash (ip : Ipv4) (groups : List Nat) :
      (Client.v4 ip).key ≠ (Client.network groups).key := by
    intro heq
    have hmem : '/' ∈ ip.text := by
      rw [show ip.text = hexText groups ++ "::/64".toList from heq]
      simp
    rcases ip.mem_text hmem with hmem | hmem
    all_goals exact absurd hmem (by decide)
  cases c with
  | v4 ip =>
    cases d with
    | v4 ip' => exact congrArg Client.v4 (Ipv4.text_injective h)
    | network groups => exact absurd h (hslash ip groups)
  | network groups =>
    cases d with
    | v4 ip => exact absurd h.symm (hslash ip groups)
    | network groups' =>
      have hsame := hexText_inj (hc _ rfl) (hd _ rfl) (List.append_cancel_right h)
      rw [hsame]

theorem seenAs_network {groups : List Nat} (h : l.seenAs = .network groups) : groups ≠ [] := by
  cases l with
  | ipv4 ip =>
    have hseen : (Literal.ipv4 ip).seenAs = .v4 ip := if_neg id
    rw [hseen] at h
    cases h
  | ipv6 s zone =>
    by_cases hwritten : ∃ ip : Ipv4, s.text.map Char.toLower = "::ffff:".toList ++ ip.text
    · obtain ⟨ip, htext⟩ := hwritten
      rw [seenAs_of_written zone htext] at h
      cases h
    · rw [seenAs_of_not_written zone fun ip htext => hwritten ⟨ip, htext⟩] at h
      cases h
      refine List.ne_nil_of_length_pos ?_
      rw [List.length_take, s.address.length_groups]
      decide

theorem key_eq_iff (n : Node) (l m : Literal) (bracketed bracketed' : Bool) :
    n.normalizeClientIp (some (l.text bracketed)) = n.normalizeClientIp (some (m.text bracketed')) ↔
      l.seenAs = m.seenAs := by
  rw [normalizeClientIp_eq, normalizeClientIp_eq]
  exact ⟨key_injective (fun _ h => seenAs_network h) fun _ h => seenAs_network h,
    congrArg Client.key⟩

/-- A hidden address is of an IPv4 client. -/
theorem client_ne_zeroNetwork (h : l.Hidden) : l.client ≠ zeroNetwork := by
  cases l with
  | ipv4 ip => exact absurd h id
  | ipv6 s zone =>
    obtain ⟨ip, hmapped⟩ := Option.ne_none_iff_exists'.mp h.1
    simp [Literal.client, clientOf, hmapped, zeroNetwork]

/-- **Keys identify clients**, as far as mapped addresses are not hidden: for any two valid texts of
addresses, with brackets or without, the keys are the same just when the clients are, if and only if
the condition holds. -/
theorem keys_identify_clients_iff (n : Node) (l m : Literal) (bracketed bracketed' : Bool) :
    ((n.normalizeClientIp (some (l.text bracketed)) =
        n.normalizeClientIp (some (m.text bracketed'))) ↔ l.client = m.client) ↔ KeysFit l m := by
  rw [key_eq_iff, KeysFit]
  unfold Literal.seenAs
  by_cases hl : l.Hidden
  · have hclient := client_ne_zeroNetwork hl
    by_cases hm : m.Hidden
    · simp [hl, hm]
    · simp only [hl, hm, if_true, if_false, not_true, not_false_iff, true_imp_iff, false_imp_iff,
        true_and, and_true]
      constructor
      · intro h
        have hne : m.client ≠ l.client := fun heq =>
          hclient ((h.mpr heq.symm).trans heq).symm
        exact ⟨hne, fun heq => hne (h.mp heq.symm).symm⟩
      · intro ⟨hne, hzero⟩
        exact ⟨fun heq => absurd heq.symm hzero, fun heq => absurd heq.symm hne⟩
  · by_cases hm : m.Hidden
    · have hclient := client_ne_zeroNetwork hm
      simp only [hl, hm, if_true, if_false, not_true, not_false_iff, true_imp_iff, false_imp_iff,
        true_and]
      constructor
      · intro h
        have hne : l.client ≠ m.client := fun heq => hclient (heq.symm.trans (h.mpr heq))
        exact ⟨hne, fun heq => hne (h.mp heq)⟩
      · intro ⟨hne, hzero⟩
        exact ⟨fun heq => absurd heq hzero, fun heq => absurd heq hne⟩
    · simp [hl, hm]

end

/-! ### One client with two keys -/

/-- A Node that knows ASCII only. -/
noncomputable def asciiNode : Node where
  isIP text :=
    open Classical in
      if ∃ ip : Ipv4, ip.text = text then 4
      else if ∃ (s : Spelling) (zone : Zone), s.text ++ zone.text = text then 6 else 0
  toLowerCase text := text.map Char.toLower
  isIP_eq_four text := by
    split
    next h => simpa using h
    next h =>
      refine iff_of_false ?_ h
      split
      · decide
      · decide
  isIP_eq_six text := by
    split
    next h =>
      obtain ⟨ip, rfl⟩ := h
      refine iff_of_false (by decide) ?_
      rintro ⟨s, zone, heq⟩
      exact ip.text_ne s zone.text heq.symm
    next =>
      split
      next h => simpa using h
      next h => exact iff_of_false (by decide) h
  toLowerCase_eq _ _ := rfl

/-- `::ffff:1.2.3.4` -/
def dottedForm : Literal := .ipv6 (Ipv4.ofNats 1 2 3 4).mappedSpelling ⟨[], by simp⟩

/-- `::ffff:102:304` -/
def hexForm : Literal :=
  .ipv6
    { left := []
      right := some [.group .ffff,
        .group ⟨"102".toList, by decide, forall_mem_of_all (by decide)⟩,
        .group ⟨"304".toList, by decide, forall_mem_of_all (by decide)⟩]
      wellFormed := ⟨by decide, by simp, by decide⟩ }
    ⟨[], by simp⟩

theorem two_forms_two_keys :
    dottedForm.plain = "::ffff:1.2.3.4".toList ∧ hexForm.plain = "::ffff:102:304".toList ∧
      dottedForm.client = hexForm.client ∧
      asciiNode.normalizeClientIp (some "::ffff:1.2.3.4".toList) = "1.2.3.4".toList ∧
      asciiNode.normalizeClientIp (some "::ffff:102:304".toList) = "0:0:0:0::/64".toList := by
  have hdotted : dottedForm.plain = "::ffff:1.2.3.4".toList := by decide
  have hhex : hexForm.plain = "::ffff:102:304".toList := by decide
  refine ⟨hdotted, hhex, by decide, ?_, ?_⟩
  · have hkey := normalizeClientIp_eq asciiNode dottedForm false
    have hseen : dottedForm.seenAs = .v4 (Ipv4.mk 1 2 3 4) := seenAs_of_written _ (by decide)
    rw [hseen] at hkey
    rw [← hdotted]
    exact hkey.trans (by decide)
  · have hkey := normalizeClientIp_eq asciiNode hexForm false
    have hseen : hexForm.seenAs = .network [0, 0, 0, 0] := by
      refine seenAs_of_not_written _ fun ip htext => ?_
      have happend : "::ffff:".toList ++ "102:304".toList = "::ffff:".toList ++ ip.text := htext
      have hrest := List.append_cancel_left happend
      have hdot := ip.dot_mem_text
      rw [← hrest] at hdot
      exact absurd hdot (by decide)
    rw [hseen] at hkey
    rw [← hhex]
    exact hkey.trans (by decide)

end BrandBlitz.Network
