import EvmBank.Proofs.Document.Scalar

/-!
# Which texts are addresses

Digits are single bytes of ASCII, so a text is read as bytes just where its characters are digits that
denote them (`Hex.decode_eq_ok`). Otherwise the number of its bytes is odd, or the first byte that is no
digit is told (`Hex.decode_eq_error`). Marks in front of a text do not count (`Address.ofHex_marked`).
Behind the last of them there are the digits of the address, or there is a `Flaw`. So the texts of an
address are its forty digits behind any number of marks (`Address.Written`).
-/

namespace EvmBank

namespace Bytes

theorem ofText_eq_flatMap (s : String) : ofText s = s.toList.flatMap String.utf8EncodeChar := by
  rw [← ofText_ofList, String.ofList_toList]

end Bytes

namespace Hex

/-- Two digits of either case denote a byte, the high one first. -/
inductive Denotes : List Char → Bytes → Prop
  | nil : Denotes [] []
  | cons {high low : Char} {h l : Nat} {b : UInt8} {digits : List Char} {bytes : Bytes} :
    Text.hexValue? high = some h → Text.hexValue? low = some l → b.toNat = 16 * h + l →
    Denotes digits bytes → Denotes (high :: low :: digits) (b :: bytes)

def isDigit (b : UInt8) : Bool := (digitValue? b).isSome

/-- The cause is the first byte that is no digit, at its place in a text from `index` on. -/
def FirstBad (index : Nat) (text : Bytes) (cause : HexError) : Prop :=
  ∃ b rest, text.dropWhile isDigit = b :: rest ∧
    cause = .badDigit b (index + (text.takeWhile isDigit).length)

variable {text : Bytes} {chars : List Char} {bytes : Bytes} {index : Nat} {cause : HexError}

/-! ## Digits as characters and as bytes -/

theorem hexValue?_ofNat : ∀ n < 128, Text.hexValue? (Char.ofNat n) = digitValue? (UInt8.ofNat n) := by
  decide

theorem toNat_lt_of_hexValue? {c : Char} {n : Nat} (h : Text.hexValue? c = some n) : c.toNat < 128 := by
  simp only [Text.hexValue?, Char.isDigit_iff_toNat] at h
  grind

theorem toNat_lt_of_digitValue? {b : UInt8} {n : Nat} (h : digitValue? b = some n) :
    b.toNat < 128 ∧ n < 16 := by
  simp only [digitValue?, Bool.and_eq_true, decide_eq_true_eq, UInt8.le_iff_toNat_le] at h
  grind

/-- A digit is one byte, which stands for the same number. -/
theorem exists_byte {c : Char} {n : Nat} (h : Text.hexValue? c = some n) :
    ∃ b, String.utf8EncodeChar c = [b] ∧ digitValue? b = some n := by
  obtain ⟨b, hb, rfl⟩ := Bytes.exists_ascii (toNat_lt_of_hexValue? h)
  rw [hexValue?_ofNat _ hb, UInt8.ofNat_toNat] at h
  exact ⟨b, Bytes.utf8EncodeChar_ofNat hb, h⟩

theorem exists_bytes {high low : Char} {h l : Nat} (hhigh : Text.hexValue? high = some h)
    (hlow : Text.hexValue? low = some l) (digits : List Char) :
    ∃ x y, (high :: low :: digits).flatMap String.utf8EncodeChar =
      x :: y :: digits.flatMap String.utf8EncodeChar ∧
      digitValue? x = some h ∧ digitValue? y = some l := by
  obtain ⟨x, hx, hxvalue⟩ := exists_byte hhigh
  obtain ⟨y, hy, hyvalue⟩ := exists_byte hlow
  refine ⟨x, y, ?_, hxvalue, hyvalue⟩
  rw [List.flatMap_cons, List.flatMap_cons, hx, hy, List.singleton_append, List.singleton_append]

/-- A byte that is a digit is a character of its own, which stands for the same number. -/
theorem exists_char {b : UInt8} {n : Nat} {rest : Bytes} (hb : digitValue? b = some n)
    (h : chars.flatMap String.utf8EncodeChar = b :: rest) :
    ∃ c tail, chars = c :: tail ∧ Text.hexValue? c = some n ∧
      tail.flatMap String.utf8EncodeChar = rest := by
  obtain ⟨hascii, -⟩ := toNat_lt_of_digitValue? hb
  cases chars with
  | nil => cases h
  | cons c tail =>
    rw [List.flatMap_cons] at h
    obtain ⟨rfl, hrest⟩ := Bytes.utf8EncodeChar_append_eq_cons hascii h
    refine ⟨_, tail, rfl, ?_, hrest⟩
    rw [hexValue?_ofNat _ hascii, UInt8.ofNat_toNat, hb]

theorem eq_nil_of_flatMap (h : chars.flatMap String.utf8EncodeChar = []) : chars = [] := by
  cases chars with
  | nil => rfl
  | cons c tail =>
    have hsize := String.length_utf8EncodeChar c
    rw [(List.append_eq_nil_iff.mp h).1] at hsize
    exact absurd hsize (Nat.ne_of_lt c.utf8Size_pos)

/-! ## Reading pairs of digits -/

theorem decodePairs_cons (index : Nat) (high low : UInt8) (rest : Bytes) :
    decodePairs index (high :: low :: rest) =
      match digitValue? high, digitValue? low, decodePairs (index + 2) rest with
      | none, _, _ => .error (.badDigit high index)
      | some _, none, _ => .error (.badDigit low (index + 1))
      | some _, some _, .error cause => .error cause
      | some h, some l, .ok tail => .ok (UInt8.ofNat (16 * h + l) :: tail) := by
  simp only [decodePairs, digitAt]
  cases digitValue? high with
  | none => rfl
  | some h =>
    cases digitValue? low with
    | none => rfl
    | some l => cases decodePairs (index + 2) rest <;> rfl

/-- An even number of bytes, of which there is no first pair, is none. -/
theorem eq_nil_of_even (heven : text.length % 2 = 0)
    (hshort : ∀ high low rest, text = high :: low :: rest → False) : text = [] := by
  cases text with
  | nil => rfl
  | cons high text =>
    cases text with
    | nil => cases heven
    | cons low rest => exact (hshort high low rest rfl).elim

theorem Denotes.length_eq (h : Denotes chars bytes) : chars.length = 2 * bytes.length := by
  induction h with
  | nil => rfl
  | cons _ _ _ _ ih =>
    simp only [List.length_cons]
    omega

theorem Denotes.length_text (h : Denotes chars bytes) :
    (chars.flatMap String.utf8EncodeChar).length = 2 * bytes.length := by
  induction h with
  | nil => rfl
  | @cons _ _ _ _ _ digits _ hhigh hlow _ _ ih =>
    obtain ⟨x, y, htext, -, -⟩ := exists_bytes hhigh hlow digits
    rw [htext]
    simp only [List.length_cons]
    omega

theorem Denotes.decodePairs_eq (h : Denotes chars bytes) (index : Nat) :
    decodePairs index (chars.flatMap String.utf8EncodeChar) = .ok bytes := by
  induction h generalizing index with
  | nil => rfl
  | @cons _ _ _ _ _ digits _ hhigh hlow hb _ ih =>
    obtain ⟨x, y, htext, hx, hy⟩ := exists_bytes hhigh hlow digits
    rw [htext, decodePairs_cons, hx, hy, ih]
    simp only [← hb, UInt8.ofNat_toNat]

theorem denotes_of_decodePairs (heven : text.length % 2 = 0)
    (htext : chars.flatMap String.utf8EncodeChar = text) (h : decodePairs index text = .ok bytes) :
    Denotes chars bytes := by
  induction index, text using decodePairs.induct generalizing chars bytes with
  | case1 index high low rest ih =>
    rw [decodePairs_cons] at h
    split at h
    · cases h
    · cases h
    · cases h
    · rename_i m n tail hhigh hlow hrest
      cases h
      -- Each of the two bytes is a digit, hence a character, and behind them stand the other characters.
      obtain ⟨c, chars, rfl, hc, htext⟩ := exists_char hhigh htext
      obtain ⟨d, chars, rfl, hd, htext⟩ := exists_char hlow htext
      have hm := (toNat_lt_of_digitValue? hhigh).2
      have hn := (toNat_lt_of_digitValue? hlow).2
      refine .cons hc hd ?_ (ih ?_ htext hrest)
      · rw [UInt8.toNat_ofNat', Nat.mod_eq_of_lt (by omega)]
      · simp only [List.length_cons] at heven
        omega
  | case2 text index hshort =>
    cases eq_nil_of_even heven hshort
    cases h
    cases eq_nil_of_flatMap htext
    exact .nil

/-! ## The first byte that is no digit -/

theorem not_firstBad_nil : ¬FirstBad index [] cause := by
  rintro ⟨_, _, ⟨⟩, _⟩

theorem firstBad_cons_of_digit {b : UInt8} {n : Nat} {rest : Bytes} (hb : digitValue? b = some n) :
    FirstBad index (b :: rest) cause ↔ FirstBad (index + 1) rest cause := by
  have hdigit : isDigit b = true := by simp [isDigit, hb]
  rw [FirstBad, FirstBad, List.dropWhile_cons_of_pos hdigit, List.takeWhile_cons_of_pos hdigit,
    List.length_cons, Nat.add_right_comm index 1, Nat.add_assoc]

theorem firstBad_cons_of_none {b : UInt8} {rest : Bytes} (hb : digitValue? b = none) :
    FirstBad index (b :: rest) cause ↔ cause = .badDigit b index := by
  have hdigit : ¬isDigit b = true := by simp [isDigit, hb]
  rw [FirstBad, List.dropWhile_cons_of_neg hdigit, List.takeWhile_cons_of_neg hdigit]
  constructor
  · rintro ⟨_, _, ⟨⟩, hcause⟩
    exact hcause
  · intro hcause
    exact ⟨b, rest, rfl, hcause⟩

theorem decodePairs_eq_error (heven : text.length % 2 = 0) :
    decodePairs index text = .error cause ↔ FirstBad index text cause := by
  induction index, text using decodePairs.induct with
  | case1 index high low rest ih =>
    rw [decodePairs_cons]
    cases hhigh : digitValue? high with
    | none => rw [firstBad_cons_of_none hhigh, Except.error.injEq, eq_comm]
    | some m =>
      rw [firstBad_cons_of_digit hhigh]
      cases hlow : digitValue? low with
      | none => rw [firstBad_cons_of_none hlow, Except.error.injEq, eq_comm]
      | some n =>
        have hrest : rest.length % 2 = 0 := by
          simp only [List.length_cons] at heven
          omega
        rw [firstBad_cons_of_digit hlow, ← ih hrest]
        cases decodePairs (index + 2) rest with
        | error cause' => rfl
        | ok tail => exact ⟨nofun, nofun⟩
  | case2 text index hshort =>
    cases eq_nil_of_even heven hshort
    exact iff_of_false nofun not_firstBad_nil

/-! ## Reading a text -/

/-- A text is read as the bytes that its characters denote, if they do. -/
theorem decode_eq_ok {s : String} : decode (Bytes.ofText s) = .ok bytes ↔ Denotes s.toList bytes := by
  rw [Bytes.ofText_eq_flatMap]
  constructor
  · intro h
    unfold decode at h
    split at h
    · cases h
    · exact denotes_of_decodePairs (by omega) rfl h
  · intro h
    have hlength := h.length_text
    rw [decode, if_neg (by omega), h.decodePairs_eq]

/-- Of an odd number of bytes none is looked at. -/
theorem decode_eq_error : decode text = .error cause ↔
    text.length % 2 = 1 ∧ cause = .oddLength ∨ text.length % 2 = 0 ∧ FirstBad 0 text cause := by
  rcases Nat.mod_two_eq_zero_or_one text.length with hlength | hlength
  · rw [decode, if_neg (by omega), decodePairs_eq_error hlength]
    simp only [hlength, true_and, Nat.zero_ne_one, false_and, false_or]
  · rw [decode, if_pos hlength, Except.error.injEq, eq_comm]
    simp only [hlength, true_and, Nat.one_ne_zero, false_and, or_false]

end Hex

namespace Address

/-- A text behind marks. -/
def marked : (count : Nat) → (text : String) → String
  | 0, text => text
  | count + 1, text => "0x" ++ marked count text

/-- The text is forty digits of either case that denote the address, behind marks. -/
def Written (a : Address) (count : Nat) (s : String) : Prop :=
  ∃ digits : String,
    digits.length = 40 ∧ Hex.Denotes digits.toList a.bytes ∧ s = marked count digits

/-- What keeps a text without a mark from being an address: an odd number of bytes, or else a byte that
is no digit, or else digits of too few or too many bytes. -/
inductive Flaw (body : String) : AddressError → Prop
  | oddLength : (Bytes.ofText body).length % 2 = 1 → Flaw body (.hex .oddLength)
  | badDigit {cause : HexError} : (Bytes.ofText body).length % 2 = 0 →
    Hex.FirstBad 0 (Bytes.ofText body) cause → Flaw body (.hex cause)
  | wrongLength {bytes : Bytes} : Hex.Denotes body.toList bytes → bytes.length ≠ 20 →
    Flaw body (.wrongLength bytes.length)

variable {a : Address} {s body digits : String} {count : Nat} {cause : AddressError}

/-! ## Marks -/

theorem length_marked (count : Nat) (text : String) :
    (marked count text).length = 2 * count + text.length := by
  induction count with
  | zero => exact (Nat.zero_add _).symm
  | succ count ih =>
    have hmark : "0x".length = 2 := rfl
    rw [marked, String.length_append, ih, hmark]
    omega

theorem exists_marked (s : String) : ∃ count body, s = marked count body ∧ ¬HasMark body := by
  by_cases hmark : HasMark s
  · obtain ⟨rest, hs⟩ := hmark
    obtain ⟨count, body, rfl, hbody⟩ := exists_marked rest
    exact ⟨count + 1, body, hs, hbody⟩
  · exact ⟨0, s, rfl, hmark⟩
termination_by s.length
decreasing_by
  rw [hs, String.length_append]
  exact Nat.lt_add_of_pos_left (by decide)

/-- Marks in front of a text do not count. -/
theorem ofHex_marked (count : Nat) (text : String) : ofHex (marked count text) = ofHex text := by
  have hdrop : dropMarks (Bytes.ofText (marked count text)) = dropMarks (Bytes.ofText text) := by
    induction count with
    | zero => rfl
    | succ count ih =>
      rw [marked, Bytes.ofText_append, Bytes.ofText_mark, ← ih]
      rfl
  rw [ofHex, ofHexBytes, hdrop]
  rfl

/-- An `x` is no digit. -/
theorem not_hasMark_of_denotes {bytes : Bytes} (h : Hex.Denotes body.toList bytes) :
    ¬HasMark body := by
  rintro ⟨rest, rfl⟩
  have hchars : ("0x" ++ rest).toList = '0' :: 'x' :: rest.toList := String.toList_append
  rw [hchars] at h
  cases h with
  | cons _ hx => cases hx

/-! ## Texts without a mark -/

theorem dropMarks_of_not_hasMark (hbody : ¬HasMark body) :
    dropMarks (Bytes.ofText body) = Bytes.ofText body := by
  rw [dropMarks]
  rintro rest heq
  refine hbody (Bytes.take_ofText_eq_mark.mp ?_)
  rw [heq]
  rfl

theorem ofHex_eq_ok (hbody : ¬HasMark body) :
    ofHex body = .ok a ↔ Hex.Denotes body.toList a.bytes := by
  rw [ofHex, ofHexBytes, dropMarks_of_not_hasMark hbody, ← Hex.decode_eq_ok]
  cases Hex.decode (Bytes.ofText body) with
  | error cause =>
    constructor
    · intro h
      cases h
    · intro h
      cases h
  | ok bytes =>
    rw [Except.ok.injEq]
    constructor
    · intro h
      dsimp only at h
      split at h
      · cases h
        rfl
      · cases h
    · rintro rfl
      exact dif_pos a.length_bytes

theorem ofHex_eq_error (hbody : ¬HasMark body) : ofHex body = .error cause ↔ Flaw body cause := by
  rw [ofHex, ofHexBytes, dropMarks_of_not_hasMark hbody]
  constructor
  · intro h
    split at h
    · rename_i hflaw
      cases h
      rcases Hex.decode_eq_error.mp hflaw with ⟨hodd, rfl⟩ | ⟨heven, hfirst⟩
      · exact .oddLength hodd
      · exact .badDigit heven hfirst
    · rename_i bytes hread
      split at h
      · cases h
      · rename_i hlength
        cases h
        exact .wrongLength (Hex.decode_eq_ok.mp hread) hlength
  · intro h
    cases h with
    | oddLength hodd => rw [Hex.decode_eq_error.mpr (.inl ⟨hodd, rfl⟩)]
    | badDigit heven hfirst => rw [Hex.decode_eq_error.mpr (.inr ⟨heven, hfirst⟩)]
    | wrongLength hdenotes hlength =>
      rw [Hex.decode_eq_ok.mpr hdenotes]
      exact dif_neg hlength

/-! ## Texts of an address -/

theorem Written.length_eq (h : Written a count s) : s.length = 2 * count + 40 := by
  obtain ⟨digits, hlength, -, rfl⟩ := h
  rw [length_marked, hlength]

theorem written_of_denotes (h : Hex.Denotes digits.toList a.bytes) :
    Written a count (marked count digits) := by
  refine ⟨digits, ?_, h, rfl⟩
  rw [← String.length_toList, h.length_eq, a.length_bytes]

theorem written_toHex (a : Address) : Written a 1 a.toHex := by
  have hdigits : Hex.Denotes (Hex.encode a.bytes).toList a.bytes := by
    rw [← Hex.decode_eq_ok, Hex.ofText_encode, Hex.decode_digits]
  exact written_of_denotes hdigits

theorem ofHex_eq_ok_iff_written : ofHex s = .ok a ↔ ∃ count, Written a count s := by
  constructor
  · intro h
    obtain ⟨count, body, rfl, hbody⟩ := exists_marked s
    rw [ofHex_marked, ofHex_eq_ok hbody] at h
    exact ⟨count, written_of_denotes h⟩
  · rintro ⟨count, digits, -, hdigits, rfl⟩
    rw [ofHex_marked, ofHex_eq_ok (not_hasMark_of_denotes hdigits)]
    exact hdigits

theorem ofHex_eq_error_iff_flaw : ofHex s = .error cause ↔
    ∃ count body, s = marked count body ∧ ¬HasMark body ∧ Flaw body cause := by
  constructor
  · intro h
    obtain ⟨count, body, rfl, hbody⟩ := exists_marked s
    rw [ofHex_marked, ofHex_eq_error hbody] at h
    exact ⟨count, body, rfl, hbody, h⟩
  · rintro ⟨count, body, rfl, hbody, hflaw⟩
    rw [ofHex_marked, ofHex_eq_error hbody]
    exact hflaw

theorem exists_error_iff :
    (∃ cause, ofHex s = .error cause) ↔ ∀ a count, ¬Written a count s := by
  cases h : ofHex s with
  | error cause =>
    refine iff_of_true ⟨cause, rfl⟩ fun a count hwritten => ?_
    cases h.symm.trans (ofHex_eq_ok_iff_written.mpr ⟨count, hwritten⟩)
  | ok a =>
    obtain ⟨count, hwritten⟩ := ofHex_eq_ok_iff_written.mp h
    exact iff_of_false nofun fun hnone => hnone a count hwritten

/-- At most one mark is accepted in front of a text, just if the text is no address behind more. -/
theorem one_mark_iff : (∀ a, ofHex s = .ok a ↔ Written a 0 s ∨ Written a 1 s) ↔
    ∀ a count, ¬Written a (count + 2) s := by
  constructor
  · intro hread a count hwritten
    have hlength := hwritten.length_eq
    rcases (hread a).mp (ofHex_eq_ok_iff_written.mpr ⟨_, hwritten⟩) with hfew | hfew
    · have := hfew.length_eq
      omega
    · have := hfew.length_eq
      omega
  · intro hmarks a
    rw [ofHex_eq_ok_iff_written]
    constructor
    · rintro ⟨count, hwritten⟩
      match count with
      | 0 => exact .inl hwritten
      | 1 => exact .inr hwritten
      | count + 2 => exact absurd hwritten (hmarks a count)
    · rintro (hwritten | hwritten)
      · exact ⟨0, hwritten⟩
      · exact ⟨1, hwritten⟩

theorem parse?_toJson (a : Address) : (Json.parse? a.toJson.toText).bind ofJson? = some a := by
  rw [a.plain_toJson.parse?_toText, Option.bind_some, ofJson?_toJson]

/-- A text is read as an address just if it is the forty digits of the address, of either case and behind
any number of marks. Every other text is refused, for the flaw that it has behind its marks. So at most one
mark is accepted, except where the text is an address behind two or more. The full text of an address has
one mark, and is read as the address, also from a document. -/
theorem hexadecimal_is_exact (s : String) :
    (∀ a, ofHex s = .ok a ↔ ∃ count, Written a count s) ∧
    ((∃ cause, ofHex s = .error cause) ↔ ∀ a count, ¬Written a count s) ∧
    (∀ cause, ofHex s = .error cause ↔
      ∃ count body, s = marked count body ∧ ¬HasMark body ∧ Flaw body cause) ∧
    ((∀ a, ofHex s = .ok a ↔ Written a 0 s ∨ Written a 1 s) ↔
      ∀ a count, ¬Written a (count + 2) s) ∧
    ∀ a, Written a 1 a.toHex ∧ ofHex a.toHex = .ok a ∧
      (Json.parse? a.toJson.toText).bind ofJson? = some a :=
  ⟨fun _ => ofHex_eq_ok_iff_written, exists_error_iff, fun _ => ofHex_eq_error_iff_flaw, one_mark_iff,
    fun a => ⟨written_toHex a, ofHex_toHex a, parse?_toJson a⟩⟩

/-- Digits of both cases behind one mark. -/
def mixedCase : String := "0xaBCd00000000000000000000000000000000eF09"

/-- The digits of both cases are read. A character outside ASCII is refused for its first byte. -/
theorem mixed_case_is_read :
    ∃ a : Address, a.bytes = [0xab, 0xcd] ++ List.replicate 16 0 ++ [0xef, 0x09] ∧
      ofHex mixedCase = .ok a ∧ (Written a 0 mixedCase ∨ Written a 1 mixedCase) ∧
      ofHex "0x\u00e9" = .error (.hex (.badDigit 0xc3 0)) ∧
      ∀ a count, ¬Written a count "0x\u00e9" := by
  obtain ⟨-, -, -, hmarks, -⟩ := hexadecimal_is_exact mixedCase
  obtain ⟨-, hrefused, -⟩ := hexadecimal_is_exact "0x\u00e9"
  have hone : ∀ a count, ¬Written a (count + 2) mixedCase := by
    intro a count hwritten
    have hlength : mixedCase.length = 42 := by decide +kernel
    have := hwritten.length_eq
    omega
  have hread : ofHex mixedCase =
      .ok ⟨[0xab, 0xcd] ++ List.replicate 16 0 ++ [0xef, 0x09], by decide⟩ := by decide +kernel
  have herror : ofHex "0x\u00e9" = .error (.hex (.badDigit 0xc3 0)) := by decide +kernel
  exact ⟨_, rfl, hread, (hmarks.mpr hone _).mp hread, herror, hrefused.mp ⟨_, herror⟩⟩

/-- Behind two marks the forty digits are read as well. -/
theorem doubled_mark_is_read :
    ofHex "0x0x1212121212121212121212121212121212121212" =
        .ok ⟨List.replicate 20 0x12, List.length_replicate⟩ ∧
      ∀ a, ¬Written a 0 "0x0x1212121212121212121212121212121212121212" ∧
        ¬Written a 1 "0x0x1212121212121212121212121212121212121212" := by
  have hlength : "0x0x1212121212121212121212121212121212121212".length = 44 := by decide +kernel
  refine ⟨by decide +kernel, fun a => ⟨fun h => ?_, fun h => ?_⟩⟩
  · exact absurd (hlength.symm.trans h.length_eq) (by decide)
  · exact absurd (hlength.symm.trans h.length_eq) (by decide)

end Address

end EvmBank
