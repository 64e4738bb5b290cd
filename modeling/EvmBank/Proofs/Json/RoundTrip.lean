import EvmBank.Json.Parser
import Mathlib.Data.List.TakeDrop
import Mathlib.Data.List.TakeWhile

/-!
# Documents are read as they are written

Between a document and its text stand its tokens (`tokens`). The reader of tokens makes them up to the
document again, with whatever it keeps on its stack left alone (`Plain.parses`). The reader of
characters finds them in the text, wherever a mark or nothing stands behind it (`Plain.lexes`): until
then a number is not complete. Both are inductions on the document, so reading undoes writing for every
document that the writers make up (`Plain`): its numbers are natural numbers, and its texts have their
content.
-/

namespace EvmBank.Json

/-- Documents that are made up of single values, lists, and members with names. -/
inductive Plain : Json → Prop
  | null : Plain .null
  | bool (b : Bool) : Plain (.bool b)
  | number (n : Nat) : Plain (.ofNat n)
  | text (s : String) : Plain (.ofString s)
  | array {items : List Json} : (∀ v ∈ items, Plain v) → Plain (.array items)
  | object {members : List (String × Json)} : (∀ m ∈ members, Plain m.2) → Plain (.ofMembers members)

mutual

/-- The tokens of the compact text of a value. -/
def tokens : Json → List Token
  | .null => [.null]
  | .bool b => [.bool b]
  | .number lexeme => [.number lexeme]
  | .text content => [.text content]
  | .array items => .openBracket :: itemTokens items
  | .object members => .openBrace :: memberTokens members

def itemTokens : List Json → List Token
  | [] => [.closeBracket]
  | [v] => tokens v ++ [.closeBracket]
  | v :: w :: rest => tokens v ++ .comma :: itemTokens (w :: rest)

def memberTokens : List (Option String × Json) → List Token
  | [] => [.closeBrace]
  | [(k, v)] => .text k :: .colon :: (tokens v ++ [.closeBrace])
  | (k, v) :: m :: rest => .text k :: .colon :: (tokens v ++ .comma :: memberTokens (m :: rest))

end

/-! ## From tokens to documents -/

/-- From its tokens the value is read, and what is not complete yet stays as it is. -/
def Parses (v : Json) : Prop :=
  ∀ (stack : List Frame) (more : List Token),
    (v.tokens ++ more).foldlM State.step (.value stack) = more.foldlM State.step (.after v stack)

theorem Parses.items {v : Json} {rest : List Json} (hall : ∀ w ∈ v :: rest, Parses w)
    (done : List Json) (stack : List Frame) (more : List Token) :
    (itemTokens (v :: rest) ++ more).foldlM State.step (.value (.array done :: stack)) =
      more.foldlM State.step (.after (.array (done.reverse ++ v :: rest)) stack) := by
  induction rest generalizing v done with
  | nil =>
    rw [itemTokens, List.append_assoc, hall v List.mem_cons_self, ← List.reverse_cons]
    rfl
  | cons w rest ih =>
    rw [itemTokens, List.append_assoc, hall v List.mem_cons_self]
    have hrest := ih (fun u hu => hall u (List.mem_cons_of_mem v hu)) (v :: done)
    rw [List.reverse_cons, List.append_assoc] at hrest
    exact hrest

theorem Parses.members {m : Option String × Json} {rest : List (Option String × Json)}
    (hall : ∀ m' ∈ m :: rest, Parses m'.2) (done : List (Option String × Json))
    (stack : List Frame) (more : List Token) :
    (memberTokens (m :: rest) ++ more).foldlM State.step (.key done stack) =
      more.foldlM State.step (.after (.object (done.reverse ++ m :: rest)) stack) := by
  induction rest generalizing m done with
  | nil =>
    obtain ⟨k, v⟩ := m
    have hv := hall (k, v) List.mem_cons_self (.object done k :: stack)
    rw [← List.reverse_cons]
    change ((v.tokens ++ [Token.closeBrace]) ++ more).foldlM State.step (.value _) = _
    rw [List.append_assoc, hv]
    rfl
  | cons m' rest ih =>
    obtain ⟨k, v⟩ := m
    have hv := hall (k, v) List.mem_cons_self (.object done k :: stack)
    have hrest := ih (fun u hu => hall u (List.mem_cons_of_mem (k, v) hu)) ((k, v) :: done)
    rw [List.reverse_cons, List.append_assoc] at hrest
    change ((v.tokens ++ Token.comma :: memberTokens (m' :: rest)) ++ more).foldlM State.step
      (.value _) = _
    rw [List.append_assoc, hv]
    exact hrest

/-- A value does not begin as an array ends, so the first item of an array is read as any other. -/
theorem foldlM_firstItem (v : Json) (stack : List Frame) (more : List Token) :
    (v.tokens ++ more).foldlM State.step (.firstItem stack) =
      (v.tokens ++ more).foldlM State.step (.value (.array [] :: stack)) := by
  cases v <;> rfl

theorem exists_itemTokens (v : Json) (rest : List Json) :
    ∃ tail, itemTokens (v :: rest) = v.tokens ++ tail := by
  cases rest with
  | nil => exact ⟨_, itemTokens.eq_2 v⟩
  | cons w rest => exact ⟨_, itemTokens.eq_3 v w rest⟩

/-- Behind a brace the first key is read as any other. -/
theorem foldlM_firstKey (m : Option String × Json) (rest : List (Option String × Json))
    (stack : List Frame) (more : List Token) :
    (memberTokens (m :: rest) ++ more).foldlM State.step (.firstKey stack) =
      (memberTokens (m :: rest) ++ more).foldlM State.step (.key [] stack) := by
  cases rest <;> rfl

theorem Plain.parses {v : Json} (hv : Plain v) : Parses v := by
  induction hv with
  | null | bool _ | number _ | text _ => exact fun _ _ => rfl
  | @array items _ ih =>
    intro stack more
    change (itemTokens items ++ more).foldlM State.step (.firstItem stack) = _
    cases items with
    | nil => rfl
    | cons v rest =>
      have hitems := Parses.items ih [] stack more
      obtain ⟨tail, htail⟩ := exists_itemTokens v rest
      rw [htail, List.append_assoc] at hitems ⊢
      rw [foldlM_firstItem]
      exact hitems
  | @object members _ ih =>
    intro stack more
    change (memberTokens _ ++ more).foldlM State.step (.firstKey stack) = _
    cases members with
    | nil => rfl
    | cons m rest =>
      rw [List.map_cons, foldlM_firstKey]
      refine Parses.members ?_ [] stack more
      rw [← List.map_cons (f := fun m : String × Json => (some m.1, m.2))]
      exact List.forall_mem_map.mpr ih

/-- The tokens of a document make it up again. -/
theorem Plain.ofTokens?_tokens {v : Json} (hv : Plain v) : ofTokens? v.tokens = some v := by
  have hparses := hv.parses [] []
  rw [List.append_nil] at hparses
  rw [ofTokens?, hparses]
  rfl

/-! ## From characters to tokens -/

theorem hexValue?_digitChar : ∀ n < 16, Text.hexValue? (Nat.digitChar n) = some n := by decide

/-- The piece that a character of a text is read as: a control without a short escape is written by
its number. -/
def piece (c : Char) : Piece :=
  if c.toNat < 0x20 ∧ c ∉ ['\x08', '\x0c', '\n', '\r', '\t'] then .unit c.toNat else .char c

theorem characters_unit {n : Nat} (hn : n < 0xd800) (rest : List Piece) :
    characters (.unit n :: rest) = (characters rest).map (Char.ofNat n :: ·) := by
  have hhigh : ¬0xd800 ≤ n := Nat.not_le_of_lt hn
  cases rest with
  | nil => simp [characters, hhigh]
  | cons p rest =>
    cases p with
    | char c => simp [characters, hhigh]
    | unit m => simp [characters, hhigh, Nat.not_le_of_lt (show n < 0xdc00 by omega)]

/-- The pieces of a text make it up again. -/
theorem characters_map_piece (s : List Char) : characters (s.map piece) = some s := by
  induction s with
  | nil => rfl
  | cons c s ih =>
    rw [List.map_cons, piece]
    split
    · rename_i hcontrol
      rw [characters_unit (by omega), ih, Char.ofNat_toNat]
      rfl
    · rw [characters, ih]
      rfl

namespace Lexer

/-- The tokens that a reader comes to from where it stands, with those it has found before. -/
def run (l : Lexer) (s : List Char) : Option (List Token) := do
  let l ← s.foldlM step l
  let l ← l.close
  return l.tokens.reverse

theorem run_cons (l : Lexer) (c : Char) (s : List Char) :
    l.run (c :: s) = (l.step c).bind fun l => l.run s := by
  simp only [run, List.foldlM_cons, Option.bind_eq_bind, Option.bind_assoc]

theorem run_append (l : Lexer) (s more : List Char) :
    l.run (s ++ more) = (s.foldlM step l).bind fun l => l.run more := by
  simp only [run, List.foldlM_append, Option.bind_eq_bind, Option.bind_assoc]

theorem foldlM_escape (c : Char) (pieces : List Piece) (found : List Token) :
    (escape c).foldlM step ⟨.text pieces, found⟩ = some ⟨.text (piece c :: pieces), found⟩ := by
  by_cases hshort : c ∈ ['"', '\\', '\x08', '\x0c', '\n', '\r', '\t']
  · simp only [List.mem_cons, List.not_mem_nil, or_false] at hshort
    rcases hshort with rfl | rfl | rfl | rfl | rfl | rfl | rfl <;> rfl
  · simp only [List.mem_cons, List.not_mem_nil, or_false, not_or] at hshort
    obtain ⟨hquote, hbackslash, hb, hf, hn, hr, ht⟩ := hshort
    simp only [escape, piece, hquote, hbackslash, hb, hf, hn, hr, ht, if_false, List.mem_cons,
      List.not_mem_nil, or_false, not_false_eq_true, and_true]
    split
    · rename_i hcontrol
      have hhigh := hexValue?_digitChar (c.toNat / 16) (by omega)
      have hlow := hexValue?_digitChar (c.toNat % 16) (by omega)
      have hvalue : c.toNat / 16 * 16 + c.toNat % 16 = c.toNat := by omega
      have hzero : Text.hexValue? '0' = some 0 := rfl
      simp [step, hzero, hhigh, hlow, hvalue]
    · rename_i hshown
      simp [step, hquote, hbackslash, hshown]

theorem foldlM_flatMap_escape (s : List Char) (pieces : List Piece) (found : List Token) :
    (s.flatMap escape).foldlM step ⟨.text pieces, found⟩ =
      some ⟨.text ((s.map piece).reverse ++ pieces), found⟩ := by
  induction s generalizing pieces with
  | nil => rfl
  | cons c s ih =>
    rw [List.flatMap_cons, List.foldlM_append, foldlM_escape, Option.bind_eq_bind, Option.bind_some, ih,
      List.map_cons, List.reverse_cons, List.append_assoc]
    rfl

/-- A text is found with its content. -/
theorem run_printText (s : String) (found : List Token) (more : List Char) :
    (⟨.between, found⟩ : Lexer).run (printText (some s) ++ more) =
      (⟨.between, .text (some s) :: found⟩ : Lexer).run more := by
  have hcontent : (characters (((s.toList.map piece).reverse ++ []).reverse)).map String.ofList =
      some s := by
    rw [List.append_nil, List.reverse_reverse, characters_map_piece, Option.map_some,
      String.ofList_toList]
  rw [printText, Option.getD_some, List.cons_append, List.cons_append, run_cons]
  change run ⟨.text [], found⟩ _ = _
  rw [List.append_assoc, run_append, foldlM_flatMap_escape, Option.bind_some, List.cons_append,
    run_cons]
  change run ⟨.between, .text (Option.map _ _) :: found⟩ ([] ++ more) = _
  rw [hcontent, List.nil_append]

/-! ### What is complete only before something else -/

/-- Nothing follows, or a mark. -/
def Ended (more : List Char) : Prop := ∀ c ∈ more.head?, (markToken? c).isSome = true

theorem ended_nil : Ended [] := fun _ h => nomatch h

theorem ended_cons {c : Char} (h : (markToken? c).isSome = true) (more : List Char) :
    Ended (c :: more) := by
  rintro _ ⟨⟩
  exact h

theorem eq_mark_of_isSome {c : Char} (h : (markToken? c).isSome = true) :
    c = '[' ∨ c = ']' ∨ c = '\x7b' ∨ c = '\x7d' ∨ c = ',' ∨ c = ':' := by
  simp only [markToken?] at h
  grind

theorem step_mark {c : Char} {t : Token} (h : markToken? c = some t) (found : List Token) :
    step ⟨.between, found⟩ c = some ⟨.between, t :: found⟩ := by
  have hmark : (markToken? c).isSome = true := by rw [h, Option.isSome_some]
  rcases eq_mark_of_isSome hmark with rfl | rfl | rfl | rfl | rfl | rfl <;> cases h <;> rfl

theorem not_numberChar_of_mark {c : Char} (h : (markToken? c).isSome = true) :
    isNumberChar c = false := by
  rcases eq_mark_of_isSome h with rfl | rfl | rfl | rfl | rfl | rfl <;> rfl

theorem not_alpha_of_mark {c : Char} (h : (markToken? c).isSome = true) : c.isAlpha = false := by
  rcases eq_mark_of_isSome h with rfl | rfl | rfl | rfl | rfl | rfl <;> rfl

/-- What is not complete is completed before a mark or the end, and reading goes on from there. -/
theorem run_of_close {l : Lexer} {t : Token} {more : List Char} (hclose : l.close = some (l.emit t))
    (hstep : ∀ c, (markToken? c).isSome = true → l.step c = l.close.bind (·.begin c))
    (hmore : Ended more) : l.run more = (l.emit t).run more := by
  cases more with
  | nil =>
    simp only [run, List.foldlM_nil, Option.pure_def, Option.bind_eq_bind, Option.bind_some, hclose]
    rfl
  | cons c more =>
    rw [run_cons, run_cons, hstep c (hmore c rfl), hclose]
    rfl

theorem run_number {lexeme : List Char} (hnumber : isNumber lexeme = true) (found : List Token)
    {more : List Char} (hmore : Ended more) :
    (⟨.number lexeme.reverse, found⟩ : Lexer).run more =
      (⟨.between, .number lexeme :: found⟩ : Lexer).run more := by
  refine run_of_close (t := .number lexeme) ?_ (fun c hc => ?_) hmore
  · simp only [close, List.reverse_reverse, hnumber, if_true]
  · simp only [step, not_numberChar_of_mark hc, Bool.false_eq_true, if_false]

theorem run_word {letters : List Char} {t : Token} (hword : wordToken? letters = some t)
    (found : List Token) {more : List Char} (hmore : Ended more) :
    (⟨.word letters.reverse, found⟩ : Lexer).run more =
      (⟨.between, t :: found⟩ : Lexer).run more := by
  refine run_of_close (t := t) ?_ (fun c hc => ?_) hmore
  · simp only [close, List.reverse_reverse, hword, Option.map_some]
  · simp only [step, not_alpha_of_mark hc, Bool.false_eq_true, if_false]

/-! ### Numbers -/

theorem foldlM_digits {digits : List Char} (hall : ∀ c ∈ digits, c.isDigit = true)
    (lexeme : List Char) (found : List Token) :
    digits.foldlM step ⟨.number lexeme, found⟩ = some ⟨.number (digits.reverse ++ lexeme), found⟩ := by
  induction digits generalizing lexeme with
  | nil => rfl
  | cons c digits ih =>
    have hc := hall c List.mem_cons_self
    have hstep : step ⟨.number lexeme, found⟩ c = some ⟨.number (c :: lexeme), found⟩ := by
      simp only [step, isNumberChar, hc, Bool.true_or, if_true]
    rw [List.foldlM_cons, hstep, Option.bind_eq_bind, Option.bind_some,
      ih fun c hc => hall c (List.mem_cons_of_mem _ hc), List.reverse_cons, List.append_assoc]
    rfl

theorem step_digit {c : Char} (hc : c.isDigit = true) (found : List Token) :
    step ⟨.between, found⟩ c = some ⟨.number [c], found⟩ := by
  have hother (d : Char) (hd : d.isDigit = false) : c ≠ d := by
    rintro rfl
    cases hd.symm.trans hc
  simp only [step, begin, isBlank, hother ' ' rfl, hother '\n' rfl, hother '\t' rfl, hother '\r' rfl,
    hother '"' rfl, hc, decide_false, Bool.or_self, Bool.false_eq_true, if_false, Bool.true_or, if_true]

end Lexer

/-- Digits are a number, if none of them is a zero too many. -/
theorem isNumber_of_digits {digits : List Char} (hne : digits ≠ [])
    (hall : ∀ c ∈ digits, c.isDigit = true)
    (hzero : digits.length = 1 ∨ digits.head? ≠ some '0') : isNumber digits = true := by
  have hspan : digits.span Char.isDigit = (digits, []) := by
    rw [List.span_eq_takeWhile_dropWhile, List.takeWhile_eq_self_iff.mpr hall,
      List.dropWhile_eq_nil_iff.mpr hall]
  cases digits with
  | nil => exact absurd rfl hne
  | cons c rest =>
    have htake : takeDigits? (c :: rest) = some (c :: rest, []) := by
      rw [takeDigits?, hspan]
    have hsign : c ≠ '-' := by
      rintro rfl
      cases hall '-' List.mem_cons_self
    have hdigits : ((c :: rest).length = 1 || (c :: rest).head? ≠ some '0') = true := by
      simpa using hzero
    unfold isNumber
    dsimp only
    split
    · rename_i digits tail heq
      split at heq
      · rename_i hminus
        exact absurd (List.cons.inj hminus).1 hsign
      · cases htake.symm.trans heq
        rw [hdigits]
        rfl
    · rename_i heq
      split at heq
      · rename_i hminus
        exact absurd (List.cons.inj hminus).1 hsign
      · cases htake.symm.trans heq

/-- Only zero is written with a zero in front. -/
theorem head?_toDigits_ne_zero {n : Nat} (hn : 0 < n) : (Nat.toDigits 10 n).head? ≠ some '0' := by
  induction n using Nat.strongRecOn with
  | ind n ih =>
    rw [Nat.toDigits_eq_if (by decide)]
    split
    · rename_i hlt
      have hdigits : ∀ d < 10, 0 < d → Nat.digitChar d ≠ '0' := by decide
      simpa using hdigits n hlt hn
    · rename_i hge
      have hhead := ih (n / 10) (by omega) (by omega)
      rw [List.head?_append, Option.or_of_isSome (by simp [Nat.toDigits_ne_nil])]
      exact hhead

theorem isDigit_of_mem_toDigits {n : Nat} {c : Char} (h : c ∈ Nat.toDigits 10 n) :
    c.isDigit = true :=
  Nat.isDigit_of_mem_toDigits (by decide) (by decide) h

theorem isNumber_toDigits (n : Nat) : isNumber (Nat.toDigits 10 n) = true := by
  refine isNumber_of_digits Nat.toDigits_ne_nil (fun c => isDigit_of_mem_toDigits) ?_
  rcases Nat.eq_zero_or_pos n with rfl | hn
  · exact .inl rfl
  · exact .inr (head?_toDigits_ne_zero hn)

/-! ### Whole documents -/

/-- The tokens of the value are found in its text, if the text ends there. -/
def Lexes (v : Json) : Prop :=
  ∀ (found : List Token) (more : List Char), Lexer.Ended more →
    (⟨.between, found⟩ : Lexer).run (v.print ++ more) =
      (⟨.between, v.tokens.reverse ++ found⟩ : Lexer).run more

theorem lexes_ofNat (n : Nat) : Lexes (.ofNat n) := by
  intro found more hmore
  cases hdigits : Nat.toDigits 10 n with
  | nil => exact absurd hdigits Nat.toDigits_ne_nil
  | cons c digits =>
    have hall : ∀ d ∈ c :: digits, d.isDigit = true := fun d hd =>
      isDigit_of_mem_toDigits (hdigits ▸ hd)
    have hnumber := isNumber_toDigits n
    rw [hdigits] at hnumber
    have hclosed := Lexer.run_number hnumber found hmore
    rw [List.reverse_cons] at hclosed
    rw [ofNat, hdigits, print, tokens, List.cons_append, Lexer.run_cons,
      Lexer.step_digit (hall c List.mem_cons_self), Option.bind_some, Lexer.run_append,
      Lexer.foldlM_digits fun d hd => hall d (List.mem_cons_of_mem c hd)]
    exact hclosed

theorem lexes_word {v : Json} (letters : List Char) {t : Token} (hprint : v.print = letters)
    (htokens : v.tokens = [t]) (hword : wordToken? letters = some t)
    (hfold : ∀ found, letters.foldlM Lexer.step ⟨.between, found⟩ =
      some ⟨.word letters.reverse, found⟩) : Lexes v := by
  intro found more hmore
  rw [hprint, htokens, Lexer.run_append, hfold, Option.bind_some]
  exact Lexer.run_word hword found hmore

/-- A mark behind the value is found after its tokens. -/
theorem Lexes.mark {v : Json} (hv : Lexes v) {c : Char} {t : Token} (hc : markToken? c = some t)
    (found : List Token) (more : List Char) :
    (⟨.between, found⟩ : Lexer).run (v.print ++ c :: more) =
      (⟨.between, t :: (v.tokens.reverse ++ found)⟩ : Lexer).run more := by
  have hmark : (markToken? c).isSome = true := by rw [hc, Option.isSome_some]
  rw [hv found _ (Lexer.ended_cons hmark more), Lexer.run_cons, Lexer.step_mark hc, Option.bind_some]

theorem Lexes.items {v : Json} {rest : List Json} (hall : ∀ w ∈ v :: rest, Lexes w)
    (found : List Token) (more : List Char) :
    (⟨.between, found⟩ : Lexer).run (printItems (v :: rest) ++ more) =
      (⟨.between, (itemTokens (v :: rest)).reverse ++ found⟩ : Lexer).run more := by
  have hv := hall v List.mem_cons_self
  induction rest generalizing v found with
  | nil =>
    rw [printItems, itemTokens, List.append_assoc, List.singleton_append, hv.mark rfl,
      List.reverse_append, List.append_assoc]
    rfl
  | cons w rest ih =>
    have hrest := ih (fun u hu => hall u (List.mem_cons_of_mem v hu))
      (.comma :: (v.tokens.reverse ++ found)) (hall w (.tail v List.mem_cons_self))
    rw [printItems, itemTokens, List.append_assoc, List.cons_append, hv.mark rfl, hrest,
      List.reverse_append, List.reverse_cons, List.append_assoc, List.append_assoc]
    rfl

/-- The name of a member, and the mark behind it. -/
theorem Lexer.run_name (name : String) (found : List Token) (more : List Char) :
    (⟨.between, found⟩ : Lexer).run (printText (some name) ++ ':' :: more) =
      (⟨.between, .colon :: .text (some name) :: found⟩ : Lexer).run more := by
  rw [run_printText, run_cons]
  rfl

theorem Lexes.members {m : String × Json} {rest : List (String × Json)}
    (hall : ∀ m' ∈ m :: rest, Lexes m'.2) (found : List Token) (more : List Char) :
    (⟨.between, found⟩ : Lexer).run
        (printMembers ((m :: rest).map fun m => (some m.1, m.2)) ++ more) =
      (⟨.between, (memberTokens ((m :: rest).map fun m => (some m.1, m.2))).reverse ++ found⟩ :
        Lexer).run more := by
  have hv := hall m List.mem_cons_self
  induction rest generalizing m found with
  | nil =>
    have hmark := hv.mark (c := '\x7d') rfl (.colon :: .text (some m.1) :: found) more
    simp only [List.map_cons, List.map_nil, printMembers, memberTokens, List.append_assoc,
      List.cons_append, Lexer.run_name, List.nil_append, hmark, List.reverse_cons,
      List.reverse_append, List.reverse_nil]
  | cons m' rest ih =>
    have hmark := hv.mark (c := ',') rfl (.colon :: .text (some m.1) :: found)
    have hrest := ih (fun u hu => hall u (List.mem_cons_of_mem m hu))
      (.comma :: (m.2.tokens.reverse ++ .colon :: .text (some m.1) :: found))
      (hall m' (.tail m List.mem_cons_self))
    simp only [List.map_cons] at hrest
    simp only [List.map_cons, printMembers, memberTokens, List.append_assoc, List.cons_append,
      Lexer.run_name, hmark, hrest, List.reverse_cons, List.reverse_append, List.nil_append]

theorem Plain.lexes {v : Json} (hv : Plain v) : Lexes v := by
  induction hv with
  | null => exact lexes_word ['n', 'u', 'l', 'l'] rfl rfl rfl fun _ => rfl
  | bool b =>
    cases b with
    | true => exact lexes_word ['t', 'r', 'u', 'e'] rfl rfl rfl fun _ => rfl
    | false => exact lexes_word ['f', 'a', 'l', 's', 'e'] rfl rfl rfl fun _ => rfl
  | number n => exact lexes_ofNat n
  | text s => exact fun found more _ => Lexer.run_printText s found more
  | @array items _ ih =>
    intro found more _
    rw [print, tokens, List.cons_append, Lexer.run_cons]
    change (⟨.between, .openBracket :: found⟩ : Lexer).run _ = _
    rw [List.reverse_cons, List.append_assoc]
    cases items with
    | nil => rfl
    | cons v rest => exact Lexes.items ih _ _
  | @object members _ ih =>
    intro found more _
    rw [ofMembers, print, tokens, List.cons_append, Lexer.run_cons]
    change (⟨.between, .openBrace :: found⟩ : Lexer).run _ = _
    rw [List.reverse_cons, List.append_assoc]
    cases members with
    | nil => rfl
    | cons m rest => exact Lexes.members ih _ _

/-- A document is read as it was written. -/
theorem Plain.parse?_toText {v : Json} (hv : Plain v) : parse? v.toText = some v := by
  have hlexes := hv.lexes [] [] Lexer.ended_nil
  rw [List.append_nil, List.append_nil] at hlexes
  have htokens : tokens? v.print = some v.tokens := by
    change Lexer.start.run v.print = _
    rw [Lexer.start, hlexes, Lexer.run, List.foldlM_nil]
    change some v.tokens.reverse.reverse = _
    rw [List.reverse_reverse]
  rw [parse?, toText, String.toList_ofList, htokens, Option.bind_some, hv.ofTokens?_tokens]

end EvmBank.Json
