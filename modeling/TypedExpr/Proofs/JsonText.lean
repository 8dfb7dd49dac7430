import TypedExpr.Json.Printer
import TypedExpr.Json.Reader
import TypedExpr.Proofs.Scanning

/-!
# JSON texts read back

The reader gets back every tree that the printer writes, as long as the numbers in it are written as
the grammar of JSON has them. A number ends where no character can continue it; strings carry their
own end, and arrays and objects theirs.
-/

namespace TypedExpr.Json

open Text

/-! ## Strings -/

/-- The control characters with a short escape. -/
def shortControls : List Char := ['\x08', '\x0c', '\n', '\r', '\t']

/-- The part of a string as which a character is read back: a control character without a short
escape comes as a UTF-16 unit. -/
def pieceOf (c : Char) : Piece :=
  if isControl c ∧ c ∉ shortControls then .unit c.toNat else .char c

theorem hexValue?_hexDigit : ∀ d < 16, hexValue? (hexDigit d) = some d := by
  decide

theorem unit?_hexDigits {n : Nat} (h : n < 65536) :
    unit? (hexDigit (n / 4096 % 16)) (hexDigit (n / 256 % 16)) (hexDigit (n / 16 % 16))
      (hexDigit (n % 16)) = some n := by
  have hdigit (m : Nat) : hexValue? (hexDigit (m % 16)) = some (m % 16) :=
    hexValue?_hexDigit _ (Nat.mod_lt _ (by decide))
  simp only [unit?, hdigit, Option.pure_def, Option.bind_eq_bind, Option.bind_some,
    Option.some.injEq]
  omega

/-- A part in front of those that are read. -/
def Piece.before (p : Piece) : List Piece × List Char → List Piece × List Char
  | (pieces, rest) => (p :: pieces, rest)

theorem readPieces?_unitEscape {n : Nat} (h : n < 65536) (rest : List Char) :
    readPieces? (unitEscape n ++ rest) = (readPieces? rest).map (Piece.unit n).before := by
  simp only [unitEscape, List.cons_append, List.nil_append, readPieces?, unit?_hexDigits h]
  cases readPieces? rest <;> rfl

theorem readPieces?_shortEscape {c meant : Char} (hc : c ≠ 'u')
    (h : shortEscapes.lookup c = some meant) (rest : List Char) :
    readPieces? ('\\' :: c :: rest) = (readPieces? rest).map (Piece.char meant).before := by
  rw [readPieces?]
  · simp only [h]
    cases readPieces? rest <;> rfl
  · rintro _ _ _ _ _ rfl
    exact absurd rfl hc

theorem readPieces?_plain {c : Char} (hcontrol : isControl c = false) (hquote : c ≠ '"')
    (hslash : c ≠ '\\') (rest : List Char) :
    readPieces? (c :: rest) = (readPieces? rest).map (Piece.char c).before := by
  rw [readPieces?]
  · rw [if_neg (by simp [hcontrol, hslash])]
    cases readPieces? rest <;> rfl
  · exact fun h => absurd h hquote
  · exact fun _ _ _ _ _ h => absurd h hslash
  · exact fun _ _ h => absurd h hslash

theorem readPieces?_escapeChar (c : Char) (rest : List Char) :
    readPieces? (escapeChar c ++ rest) = (readPieces? rest).map (pieceOf c).before := by
  unfold escapeChar
  split
  case h_8 hquote hslash hb hf hn hr ht =>
    have hshort : c ∉ shortControls := by
      simp only [shortControls, List.mem_cons, List.not_mem_nil, or_false, not_or]
      exact ⟨hb, hf, hn, hr, ht⟩
    split
    next hcontrol =>
      have hlt : c.toNat < 65536 := by
        have : c.toNat < 0x20 := of_decide_eq_true hcontrol
        omega
      rw [pieceOf, if_pos ⟨hcontrol, hshort⟩, readPieces?_unitEscape hlt]
    next hcontrol =>
      rw [pieceOf, if_neg fun h => hcontrol h.1]
      exact readPieces?_plain (by simpa using hcontrol) hquote hslash rest
  all_goals exact readPieces?_shortEscape (by decide) (by decide) rest

theorem readPieces?_flatMap (cs rest : List Char) :
    readPieces? (cs.flatMap escapeChar ++ '"' :: rest) = some (cs.map pieceOf, rest) := by
  induction cs with
  | nil => rfl
  | cons c cs ih =>
    rw [List.flatMap_cons, List.append_assoc, readPieces?_escapeChar, ih]
    rfl

/-- A UTF-16 unit that is no surrogate stands for itself whatever follows. -/
theorem joinPieces?_unit {n : Nat} (hleading : isLeading n = false)
    (htrailing : isTrailing n = false) (pieces : List Piece) :
    joinPieces? (.unit n :: pieces) = (joinPieces? pieces).map (Char.ofNat n :: ·) := by
  rcases pieces with - | ⟨c | low, pieces⟩
  · simp only [joinPieces?, hleading, htrailing]
    rfl
  · simp only [joinPieces?, hleading, htrailing]
    cases joinPieces? pieces <;> rfl
  · rw [joinPieces?, hleading, htrailing]
    cases joinPieces? (.unit low :: pieces) <;> rfl

theorem joinPieces?_pieceOf (c : Char) (pieces : List Piece) :
    joinPieces? (pieceOf c :: pieces) = (joinPieces? pieces).map (c :: ·) := by
  unfold pieceOf
  split
  next h =>
    have hcontrol : c.toNat < 0x20 := of_decide_eq_true h.1
    have hleading : isLeading c.toNat = false := by
      simp only [isLeading, Bool.and_eq_false_iff, decide_eq_false_iff_not]
      omega
    have htrailing : isTrailing c.toNat = false := by
      simp only [isTrailing, Bool.and_eq_false_iff, decide_eq_false_iff_not]
      omega
    rw [joinPieces?_unit hleading htrailing, Char.ofNat_toNat]
  next =>
    simp only [joinPieces?]
    cases joinPieces? pieces <;> rfl

theorem joinPieces?_map (cs : List Char) : joinPieces? (cs.map pieceOf) = some cs := by
  induction cs with
  | nil => rfl
  | cons c cs ih =>
    rw [List.map_cons, joinPieces?_pieceOf, ih]
    rfl

/-- A string reads back behind its opening quote, and so does one without a text. -/
theorem readString?_stringChars (s : Key) (rest : List Char) :
    ∃ cs, stringChars s = '"' :: cs ∧ readString? (cs ++ rest) = some (s, rest) := by
  cases s with
  | some s =>
    refine ⟨s.toList.flatMap escapeChar ++ ['"'], rfl, ?_⟩
    rw [List.append_assoc, List.singleton_append, readString?, readPieces?_flatMap]
    show some ((joinPieces? (s.toList.map pieceOf)).map String.ofList, rest) = some (some s, rest)
    rw [joinPieces?_map, Option.map_some, String.ofList_toList]
  | none =>
    refine ⟨unitEscape 0xd800 ++ ['"'], rfl, ?_⟩
    rw [List.append_assoc, List.singleton_append, readString?, readPieces?_unitEscape (by decide)]
    rfl

/-! ## Numbers -/

/-- The characters that can continue a number. -/
def isNumberPart (c : Char) : Bool := c.isDigit || c == '.' || c == 'e' || c == 'E'

/-- A number as the grammar has it: digits without a leading zero, and digits behind the point and
in the exponent if these are there. -/
structure Number.IsGrammatical (n : Number) : Prop where
  whole_ne_nil : n.whole ≠ []
  isDigit_of_mem_whole {c : Char} (hc : c ∈ n.whole) : c.isDigit
  eq_nil_of_zero {ds : List Char} (h : n.whole = '0' :: ds) : ds = []
  isDigit_of_mem_places {c : Char} (hc : c ∈ n.places) : c.isDigit
  exponent_ne_nil {e : Exponent} (he : n.exponent = some e) : e.digits ≠ []
  isDigit_of_mem_exponent {e : Exponent} (he : n.exponent = some e) {c : Char}
    (hc : c ∈ e.digits) : c.isDigit

theorem readDigits?_append {ds rest : List Char} (hne : ds ≠ []) (hds : ∀ c ∈ ds, c.isDigit)
    (hrest : Stops Char.isDigit rest) : readDigits? (ds ++ rest) = some (ds, rest) := by
  rw [readDigits?, spanDigits_append hds hrest]
  exact if_neg hne

theorem stops_isDigit {rest : List Char} (h : Stops isNumberPart rest) :
    Stops Char.isDigit rest :=
  h.mono fun c hc => by simp only [isNumberPart, hc, Bool.true_or]

namespace Number

variable {n : Number} {rest : List Char}

theorem readWhole?_append (h : n.IsGrammatical) (hrest : Stops Char.isDigit rest) :
    readWhole? (n.whole ++ rest) = some (n.whole, rest) := by
  have hread := readDigits?_append h.whole_ne_nil (fun _ hc => h.isDigit_of_mem_whole hc) hrest
  unfold readWhole?
  rw [hread]
  split
  next _ _ _ heq =>
    have hwhole := congrArg Prod.fst (Option.some.inj heq)
    cases h.eq_nil_of_zero hwhole
  next => rfl

theorem readPlaces?_append (h : n.IsGrammatical) (hrest : Stops Char.isDigit rest)
    (hpoint : Stops (· == '.') rest) :
    readPlaces? ((if n.places = [] then [] else '.' :: n.places) ++ rest) =
      some (n.places, rest) := by
  split
  next hnil =>
    rw [hnil, List.nil_append]
    unfold readPlaces?
    split
    · cases stops_cons.mp hpoint
    · rfl
  next hne =>
    exact readDigits?_append hne (fun _ hc => h.isDigit_of_mem_places hc) hrest

theorem readExponent?_append (h : n.IsGrammatical) (hrest : Stops isNumberPart rest) :
    readExponent? ((n.exponent.map exponentChars).getD [] ++ rest) = some (n.exponent, rest) := by
  cases he : n.exponent with
  | none =>
    cases rest with
    | nil => rfl
    | cons c rest =>
      have hc : ¬(c = 'e' ∨ c = 'E') := by
        have hpart := stops_cons.mp hrest
        rintro (rfl | rfl) <;> cases hpart
      exact if_neg hc
  | some e =>
    obtain ⟨negative, ds⟩ := e
    have hne : ds ≠ [] := h.exponent_ne_nil he
    have hds : ∀ c ∈ ds, c.isDigit := fun _ hc => h.isDigit_of_mem_exponent he hc
    have hread := readDigits?_append hne hds (stops_isDigit hrest)
    cases negative with
    | true =>
      show (readDigits? (ds ++ rest)).bind _ = _
      rw [hread]
      rfl
    | false =>
      show readExponent? ('e' :: (ds ++ rest)) = _
      simp only [readExponent?, true_or, if_true]
      split
      next heq => exact absurd heq (append_ne_cons hds hne (by decide) _)
      next heq => exact absurd heq (append_ne_cons hds hne (by decide) _)
      next =>
        simp only [hread]
        rfl

theorem stops_exponent (n : Number) {p : Char → Bool} (hp : p 'e' = false) (hrest : Stops p rest) :
    Stops p ((n.exponent.map exponentChars).getD [] ++ rest) := by
  cases n.exponent with
  | none => exact hrest
  | some e => exact stops_cons.mpr hp

theorem stops_places (n : Number) {p : Char → Bool} (hp : p '.' = false) (hrest : Stops p rest) :
    Stops p ((if n.places = [] then [] else '.' :: n.places) ++ rest) := by
  split
  · exact hrest
  · exact stops_cons.mpr hp

/-- A number reads back in front of anything that cannot continue it. -/
theorem readNumber?_chars (h : n.IsGrammatical) (hrest : Stops isNumberPart rest) :
    readNumber? (n.chars ++ rest) = some (n, rest) := by
  have hpoint : Stops (· == '.') rest := hrest.mono fun c hc => by
    simp only [isNumberPart, hc, Bool.or_true, Bool.true_or]
  have hexponent := readExponent?_append h hrest
  have hdigit := n.stops_exponent (by decide) (stops_isDigit hrest)
  have hplaces := readPlaces?_append h hdigit (n.stops_exponent (by decide) hpoint)
  have hwhole := readWhole?_append h (n.stops_places (by decide) hdigit)
  have hsign (tail after : List Char) : n.whole ++ tail ≠ '-' :: after :=
    append_ne_cons (fun _ hc => h.isDigit_of_mem_whole hc) h.whole_ne_nil (by decide) after
  obtain ⟨negative, whole, places, exponent⟩ := n
  simp only [chars, List.append_assoc] at *
  cases negative with
  | true =>
    simp only [readNumber?, if_true, List.singleton_append, hwhole, hplaces, hexponent,
      Option.pure_def, Option.bind_eq_bind, Option.bind_some]
  | false =>
    simp only [readNumber?, if_false, List.nil_append, Bool.false_eq_true]
    split
    next heq => exact absurd heq (hsign _ _)
    next =>
      simp only [hwhole, hplaces, hexponent, Option.pure_def, Option.bind_eq_bind,
        Option.bind_some]

/-! ### Integers -/

theorem isGrammatical_ofInt (i : Int) : (ofInt i).IsGrammatical where
  whole_ne_nil := digits_ne_nil i.natAbs
  isDigit_of_mem_whole hc := isDigit_of_mem_digits hc
  eq_nil_of_zero h := eq_nil_of_digits_eq_zero_cons h
  isDigit_of_mem_places hc := by cases hc
  exponent_ne_nil he := by cases he
  isDigit_of_mem_exponent he := by cases he

theorem integer?_ofInt {i : Int} (hlow : -2 ^ 63 ≤ i) (hhigh : i < 2 ^ 64) :
    (ofInt i).integer? = some i := by
  unfold integer? ofInt
  rw [if_pos ⟨rfl, rfl⟩]
  simp only [natOfDigits_digits, decide_eq_true_eq]
  split
  · rw [if_pos (by omega), show -(i.natAbs : Int) = i by omega]
  · rw [if_pos (by omega), show (i.natAbs : Int) = i by omega]

end Number

/-! ## Trees -/

mutual

/-- Whether every number in the tree is as the grammar has it. -/
def IsGrammatical : Json → Prop
  | .null | .boolean _ | .string _ => True
  | .number n => n.IsGrammatical
  | .array items => AreItemsGrammatical items
  | .object members => AreMembersGrammatical members

def AreItemsGrammatical : List Json → Prop
  | [] => True
  | j :: rest => j.IsGrammatical ∧ AreItemsGrammatical rest

def AreMembersGrammatical : List (Key × Json) → Prop
  | [] => True
  | (_, j) :: rest => j.IsGrammatical ∧ AreMembersGrammatical rest

end

/-- The characters that a number begins with. -/
def isNumberStart (c : Char) : Bool := c == '-' || c.isDigit

theorem Number.chars_eq_cons {n : Number} (h : n.IsGrammatical) :
    ∃ c cs, n.chars = c :: cs ∧ isNumberStart c := by
  obtain ⟨negative, whole, places, exponent⟩ := n
  obtain ⟨d, ds, rfl⟩ := List.exists_cons_of_ne_nil h.whole_ne_nil
  cases negative with
  | true => exact ⟨'-', _, rfl, rfl⟩
  | false =>
    have hd : d.isDigit := h.isDigit_of_mem_whole List.mem_cons_self
    exact ⟨d, _, rfl, by rw [isNumberStart, hd, Bool.or_true]⟩

theorem isSpace_of_isNumberStart {c : Char} (h : isNumberStart c) : isSpace c = false := by
  cases hspace : isSpace c with
  | false => rfl
  | true =>
    simp only [isSpace, Bool.or_eq_true, beq_iff_eq] at hspace
    rcases hspace with ((rfl | rfl) | rfl) | rfl <;> cases h

/-- A tree begins neither with white space nor with a bracket that closes. -/
theorem chars_eq_cons {j : Json} (h : j.IsGrammatical) :
    ∃ c cs, j.chars = c :: cs ∧ isSpace c = false ∧ c ≠ ']' := by
  rcases j with - | (_ | _) | n | (_ | _) | (_ | _) | (_ | ⟨_, _⟩)
  case number =>
    obtain ⟨c, cs, hchars, hstart⟩ := Number.chars_eq_cons h
    refine ⟨c, cs, hchars, isSpace_of_isNumberStart hstart, ?_⟩
    rintro rfl
    cases hstart
  all_goals exact ⟨_, _, rfl, by decide, by decide⟩

theorem skipSpace_cons {c : Char} (h : isSpace c = false) (cs : List Char) :
    skipSpace (c :: cs) = c :: cs :=
  Stops.dropWhile (stops_cons.mpr h)

/-- The items of an array, at least one, up to the closing bracket. -/
def itemListChars : List Json → List Char
  | [] => []
  | j :: rest => j.chars ++ itemChars rest

/-- The members of an object, at least one, up to the closing brace. -/
def memberListChars : List (Key × Json) → List Char
  | [] => []
  | (key, j) :: rest => stringChars key ++ ':' :: (j.chars ++ memberChars rest)

/-- What begins like a number is read as one. -/
theorem readValue?_number {c : Char} (hc : isNumberStart c) (fuel : Nat) (cs : List Char) :
    readValue? (fuel + 1) (c :: cs) =
      (readNumber? (c :: cs)).map fun (n, rest) => (.number n, rest) := by
  rw [readValue?, skipSpace_cons (isSpace_of_isNumberStart hc)]
  split
  case h_7 => cases readNumber? (c :: cs) <;> rfl
  -- every other form begins with a character that no number begins with
  all_goals
    next heq =>
      obtain ⟨rfl, -⟩ := List.cons.inj heq
      cases hc

mutual

/-- By induction on the tree: the fuel covers the length of the text, and every bracket and comma
uses up a character. -/
theorem readValue?_chars : ∀ j : Json, j.IsGrammatical → ∀ (fuel : Nat) (rest : List Char),
    j.chars.length ≤ fuel → Stops isNumberPart rest →
      readValue? fuel (j.chars ++ rest) = some (j, rest)
  | j, h, 0, rest, hfuel, _ => by
    obtain ⟨c, cs, hchars, -⟩ := chars_eq_cons h
    rw [hchars] at hfuel
    cases hfuel
  | .null, _, fuel + 1, rest, _, _ => rfl
  | .boolean true, _, fuel + 1, rest, _, _ => rfl
  | .boolean false, _, fuel + 1, rest, _, _ => rfl
  | .number n, h, fuel + 1, rest, _, hrest => by
    obtain ⟨c, cs, hchars, hstart⟩ := Number.chars_eq_cons h
    have hread := Number.readNumber?_chars h hrest
    simp only [chars]
    rw [hchars] at hread ⊢
    rw [List.cons_append] at hread ⊢
    rw [readValue?_number hstart, hread]
    rfl
  | .string s, _, fuel + 1, rest, _, _ => by
    obtain ⟨cs, hchars, hread⟩ := readString?_stringChars s rest
    simp only [chars, hchars, List.cons_append]
    show (do let (s, rest) ← readString? (cs ++ rest); return (Json.string s, rest)) = _
    rw [hread]
    rfl
  | .array [], _, fuel + 1, rest, _, _ => rfl
  | .array (j :: items), h, fuel + 1, rest, hfuel, _ => by
    have hread := readItems?_chars (j :: items) h (List.cons_ne_nil _ _) fuel rest
      (Nat.le_of_succ_le_succ hfuel)
    obtain ⟨c, cs, hchars, hspace, hbracket⟩ := chars_eq_cons h.1
    simp only [itemListChars, hchars, List.cons_append] at hread
    simp only [chars, hchars, List.cons_append]
    rw [readValue?, skipSpace_cons (by decide)]
    simp only [skipSpace_cons hspace]
    -- the first item is no closing bracket
    split
    next heq => exact absurd (List.cons.inj heq).1 hbracket
    next =>
      rw [hread]
      rfl
  | .object [], _, fuel + 1, rest, _, _ => rfl
  | .object ((key, j) :: members), h, fuel + 1, rest, hfuel, _ => by
    have hread := readMembers?_chars ((key, j) :: members) h (List.cons_ne_nil _ _) fuel rest
      (Nat.le_of_succ_le_succ hfuel)
    obtain ⟨cs, hchars, -⟩ := readString?_stringChars key rest
    simp only [memberListChars, hchars, List.cons_append] at hread
    simp only [chars, hchars, List.cons_append]
    rw [readValue?, skipSpace_cons (by decide)]
    simp only [skipSpace_cons (show isSpace '"' = false by decide)]
    split
    next heq => exact absurd (List.cons.inj heq).1 (by decide)
    next =>
      rw [hread]
      rfl

theorem readItems?_chars : ∀ items : List Json, AreItemsGrammatical items → items ≠ [] →
    ∀ (fuel : Nat) (rest : List Char), (itemListChars items).length ≤ fuel →
      readItems? fuel (itemListChars items ++ rest) = some (items, rest)
  | [], _, hne, _, _, _ => absurd rfl hne
  | j :: others, h, _, 0, rest, hfuel => by
    obtain ⟨c, cs, hchars, -⟩ := chars_eq_cons h.1
    rw [itemListChars, hchars] at hfuel
    cases hfuel
  | [j], h, _, fuel + 1, rest, hfuel => by
    simp only [itemListChars, itemChars, List.length_append, List.length_singleton] at hfuel
    have hread := j.readValue?_chars h.1 fuel (']' :: rest) (by omega) (stops_cons.mpr (by decide))
    simp only [itemListChars, itemChars, List.append_assoc, List.singleton_append]
    rw [readItems?, hread]
    rfl
  | j :: next :: others, h, _, fuel + 1, rest, hfuel => by
    simp only [itemListChars, itemChars, List.length_append, List.length_cons] at hfuel
    have hread := j.readValue?_chars h.1 fuel (',' :: (itemListChars (next :: others) ++ rest))
      (by omega) (stops_cons.mpr (by decide))
    have hothers := readItems?_chars (next :: others) h.2 (List.cons_ne_nil _ _) fuel rest
      (by simp only [itemListChars, List.length_append]; omega)
    simp only [itemListChars, itemChars, List.append_assoc, List.cons_append] at hread hothers ⊢
    rw [readItems?, hread]
    simp only [Option.bind_eq_bind, Option.bind_some,
      skipSpace_cons (show isSpace ',' = false by decide), hothers]
    rfl

/-- By induction on the members, like the items; every key brings its quotes and a colon. -/
theorem readMembers?_chars : ∀ members : List (Key × Json), AreMembersGrammatical members →
    members ≠ [] → ∀ (fuel : Nat) (rest : List Char), (memberListChars members).length ≤ fuel →
      readMembers? fuel (memberListChars members ++ rest) = some (members, rest)
  | [], _, hne, _, _, _ => absurd rfl hne
  | (key, j) :: others, _, _, 0, rest, hfuel => by
    simp only [memberListChars, List.length_append, List.length_cons] at hfuel
    omega
  | [(key, j)], h, _, fuel + 1, rest, hfuel => by
    simp only [memberListChars, memberChars, List.length_append, List.length_cons,
      List.length_nil] at hfuel
    have hread := j.readValue?_chars h.1 fuel ('\x7d' :: rest) (by omega)
      (stops_cons.mpr (by decide))
    obtain ⟨cs, hchars, hkey⟩ := readString?_stringChars key (':' :: (j.chars ++ '\x7d' :: rest))
    simp only [memberListChars, memberChars, List.append_assoc, List.cons_append, List.nil_append,
      hchars]
    rw [readMembers?, skipSpace_cons (by decide)]
    simp only [hkey, Option.bind_eq_bind, Option.bind_some,
      skipSpace_cons (show isSpace ':' = false by decide), hread]
    rfl
  | (key, j) :: next :: others, h, _, fuel + 1, rest, hfuel => by
    obtain ⟨nextKey, nextValue⟩ := next
    simp only [memberListChars, memberChars, List.length_append, List.length_cons] at hfuel
    have hread := j.readValue?_chars h.1 fuel
      (',' :: (memberListChars ((nextKey, nextValue) :: others) ++ rest)) (by omega)
      (stops_cons.mpr (by decide))
    have hothers := readMembers?_chars ((nextKey, nextValue) :: others) h.2 (List.cons_ne_nil _ _)
      fuel rest (by simp only [memberListChars, List.length_append, List.length_cons]; omega)
    obtain ⟨cs, hchars, hkey⟩ := readString?_stringChars key
      (':' :: (j.chars ++ ',' :: (memberListChars ((nextKey, nextValue) :: others) ++ rest)))
    simp only [memberListChars, memberChars, List.append_assoc, List.cons_append]
      at hread hothers hkey ⊢
    rw [hchars, List.cons_append, readMembers?, skipSpace_cons (by decide)]
    simp only [hkey, Option.bind_eq_bind, Option.bind_some,
      skipSpace_cons (show isSpace ':' = false by decide), hread,
      skipSpace_cons (show isSpace ',' = false by decide), hothers]
    rfl

end

/-- **Reading back.** A tree is read back from its text. -/
theorem ofText?_text {j : Json} (h : j.IsGrammatical) : ofText? j.text = some j := by
  have hread := j.readValue?_chars h (2 * j.chars.length + 2) [] (by omega) stops_nil
  rw [List.append_nil] at hread
  rw [ofText?, text, String.toList_ofList, read?, hread]
  rfl

end TypedExpr.Json
