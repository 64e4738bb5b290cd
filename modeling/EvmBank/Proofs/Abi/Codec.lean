import EvmBank.Proofs.Abi.Reading

/-!
# Calldata and the calls that it denotes

An argument is read from its own word (`run_argument_word`), and what is read as an argument is its word
(`argument_eq_ok`). So a whole list of arguments is read from its words (`outcomes_words`), and data in
which all readings succeed is the words of what is read, with nothing over (`eq_words_of_outcomes`). Data
has all readings succeed just if it has the right length and each address is filled up with zeros
(`exists_words_iff`). The readings go on behind one that was refused, which takes its word as well.
-/

namespace EvmBank.Abi

-- Powers are those of the core library, also beside more general ones.
attribute [local instance (high)] instPowNat

open Fallible

/-- What is read one after the other, also behind an argument that was refused. -/
def readings : List ArgumentType → Cursor → List (Except InputError Argument)
  | [], _ => []
  | t :: types, c =>
    let outcome := (argument t).run.run c
    outcome.1 :: readings types outcome.2

/-- What is read from data that should hold one word for each type. -/
def outcomes (data : Bytes) (types : List ArgumentType) :
    Except InputError (List (Except InputError Argument)) :=
  (Cursor.ofArguments data types.length).map (readings types)

/-- The first twelve bytes of the word of each address are zero. -/
def ZeroFilled (types : List ArgumentType) (data : Bytes) : Prop :=
  ∀ i : Nat, types[i]? = some .address → ∀ j < 12, data[wordSize * i + j]? = some 0

/-- Calldata that has a selector and arguments all of which can be read. -/
def Denotes (input selector : Bytes) (args : List Argument) : Prop :=
  ∃ data, splitSelector input = .ok (selector, data) ∧
    outcomes data (args.map Argument.type) = .ok (args.map .ok)

variable {c c' : Cursor}

/-! ## Single arguments -/

theorem run_word {w rest : Bytes} (hw : w.length = wordSize) (index : Nat) :
    word.run.run ⟨w ++ rest, index⟩ = (.ok w, ⟨rest, index + 1⟩) := by
  have htake : (w ++ rest).take wordSize = w := List.take_left' hw
  have hdrop : (w ++ rest).drop wordSize = rest := List.drop_left' hw
  have hlong : ¬w.length < wordSize := Nat.not_lt.mpr (Nat.le_of_eq hw.symm)
  unfold word
  rw [run_get_bind]
  simp only [htake, hdrop, if_neg hlong]
  rfl

theorem run_address_word (a : Address) (rest : Bytes) (index : Nat) :
    address.run.run ⟨a.word ++ rest, index⟩ = (.ok a, ⟨rest, index + 1⟩) := by
  have hzeros : (a.word.take 12).all (· = 0) = true := by
    rw [Address.word, List.take_left' List.length_replicate]
    simp
  have hbytes : Address.ofBytes? (a.word.drop 12) = some a := by
    rw [Address.word, List.drop_left' List.length_replicate]
    exact dif_pos a.length_bytes
  unfold address
  rw [run_get_bind, run_bind, run_word a.length_word]
  simp only [hzeros, if_true, hbytes]
  rfl

theorem run_uint_word (n : Amount) (rest : Bytes) (index : Nat) :
    uint.run.run ⟨uintWord n ++ rest, index⟩ = (.ok n, ⟨rest, index + 1⟩) := by
  have hread : Quantity.clamp (Bytes.ofBigEndian (uintWord n)) = n := by
    rw [ofBigEndian_uintWord, clamp_toNat]
  unfold uint
  rw [run_bind, run_word (length_uintWord n)]
  simp only [hread]
  rfl

/-- An argument is read from its word. -/
theorem run_argument_word (a : Argument) (rest : Bytes) (index : Nat) :
    (argument a.type).run.run ⟨a.word ++ rest, index⟩ = (.ok a, ⟨rest, index + 1⟩) := by
  cases a with
  | address value =>
    change (address >>= _).run.run _ = _
    rw [Argument.word, run_bind, run_address_word]
    rfl
  | uint value =>
    change (uint >>= _).run.run _ = _
    rw [Argument.word, run_bind, run_uint_word]
    rfl

theorem argument_eq_ok {t : ArgumentType} {a : Argument}
    (h : (argument t).run.run c = (.ok a, c')) : a.type = t ∧ c.rest = a.word ++ c'.rest := by
  cases t with
  | address =>
    obtain ⟨value, c₁, hread, h⟩ := run_bind_eq_ok.mp h
    cases h
    exact ⟨rfl, address_eq_ok hread⟩
  | uint =>
    obtain ⟨value, c₁, hread, h⟩ := run_bind_eq_ok.mp h
    cases h
    exact ⟨rfl, uint_eq_ok hread⟩

/-! ## All arguments -/

theorem readings_words (args : List Argument) (rest : Bytes) (index : Nat) :
    readings (args.map Argument.type) ⟨(args.map Argument.word).flatten ++ rest, index⟩ =
      args.map .ok := by
  induction args generalizing index with
  | nil => rfl
  | cons a args ih =>
    rw [List.map_cons, List.map_cons, List.flatten_cons, List.append_assoc, readings,
      run_argument_word, ih, List.map_cons]

theorem readings_eq_ok {types : List ArgumentType} {args : List Argument}
    (h : readings types c = args.map .ok) :
    args.map Argument.type = types ∧ ∃ rest, c.rest = (args.map Argument.word).flatten ++ rest := by
  induction types generalizing c args with
  | nil =>
    cases args with
    | nil => exact ⟨rfl, c.rest, rfl⟩
    | cons => cases h
  | cons t types ih =>
    cases args with
    | nil => cases h
    | cons a args =>
      obtain ⟨hfirst, hothers⟩ := List.cons.inj h
      obtain ⟨htype, hword⟩ := argument_eq_ok (Prod.ext hfirst rfl)
      obtain ⟨htypes, rest, hwords⟩ := ih hothers
      refine ⟨by rw [List.map_cons, htype, htypes], rest, ?_⟩
      rw [hword, hwords, List.map_cons, List.flatten_cons, List.append_assoc]

/-- Arguments are read from their words, if these are no more bytes than there can be. -/
theorem outcomes_words {args : List Argument} (hsize : args.length * wordSize < 2 ^ (64 : Nat)) :
    outcomes (args.map Argument.word).flatten (args.map Argument.type) = .ok (args.map .ok) := by
  have hcount : argumentsSize args.length = args.length * wordSize := Nat.mod_eq_of_lt hsize
  have hread := readings_words args [] 0
  rw [List.append_nil] at hread
  rw [outcomes, Cursor.ofArguments, List.length_map, hcount, if_pos (length_flatten_words args),
    Except.map, hread]

/-- What is read makes up the data. -/
theorem eq_words_of_outcomes {data : Bytes} {types : List ArgumentType} {args : List Argument}
    (h : outcomes data types = .ok (args.map .ok)) :
    args.map Argument.type = types ∧ (args.map Argument.word).flatten = data := by
  unfold outcomes Cursor.ofArguments at h
  split at h
  · rename_i hlength
    obtain ⟨htypes, rest, hdata⟩ := readings_eq_ok (Except.ok.inj h)
    dsimp only at hdata
    have hcount : args.length = types.length := by rw [← htypes, List.length_map]
    -- A size that wrapped round is less than all the words that were read.
    have hwraps : argumentsSize types.length ≤ types.length * wordSize := Nat.mod_le _ _
    have hsum := congrArg List.length hdata
    rw [List.length_append, length_flatten_words, hcount] at hsum
    have hnil : rest = [] := List.eq_nil_of_length_eq_zero (by omega)
    rw [hnil, List.append_nil] at hdata
    exact ⟨htypes, hdata.symm⟩
  · cases h

/-! ## What can be read -/

theorem zeroFilled_cons {t : ArgumentType} {types : List ArgumentType} {w data : Bytes}
    (hw : w.length = wordSize) :
    ZeroFilled (t :: types) (w ++ data) ↔
      (t = .address → ∀ j < 12, w[j]? = some 0) ∧ ZeroFilled types data := by
  have hfront {j : Nat} (hj : j < 12) : (w ++ data)[wordSize * 0 + j]? = w[j]? := by
    have hin : j < w.length := hw ▸ Nat.lt_trans hj (by decide)
    rw [Nat.mul_zero, Nat.zero_add, List.getElem?_append_left hin]
  have hback (i j : Nat) : (w ++ data)[wordSize * (i + 1) + j]? = data[wordSize * i + j]? := by
    rw [List.getElem?_append_right (by rw [hw, Nat.mul_succ]; omega), hw, Nat.mul_succ]
    congr 1
    omega
  constructor
  · intro h
    refine ⟨fun ht j hj => ?_, fun i hi j hj => ?_⟩
    · rw [← hfront hj]
      exact h 0 (congrArg some ht) j hj
    · rw [← hback]
      exact h (i + 1) hi j hj
  · rintro ⟨hfirst, hothers⟩ i hi j hj
    cases i with
    | zero => exact (hfront hj).trans (hfirst (Option.some.inj hi) j hj)
    | succ i => exact (hback i j).trans (hothers i hi j hj)

/-- A word is that of an argument of a type, if twelve zeros stand in front where it is an address. -/
theorem exists_argument_iff {t : ArgumentType} {w : Bytes} (hw : w.length = wordSize) :
    (∃ a : Argument, a.type = t ∧ a.word = w) ↔ (t = .address → ∀ j < 12, w[j]? = some 0) := by
  constructor
  · rintro ⟨a, rfl, rfl⟩ ht j hj
    cases a with
    | address value =>
      rw [Argument.word, Address.word, List.getElem?_append_left (by simpa using hj),
        List.getElem?_replicate, if_pos hj]
    | uint value => cases ht
  · intro hzeros
    cases t with
    | address =>
      have hlength : (w.drop 12).length = 20 := by
        rw [List.length_drop, hw]
        rfl
      have htake : w.take 12 = List.replicate 12 0 := by
        refine List.ext_getElem? fun j => ?_
        rw [List.getElem?_take, List.getElem?_replicate]
        split
        · rename_i hj
          exact hzeros rfl j hj
        · rfl
      refine ⟨.address ⟨w.drop 12, hlength⟩, rfl, ?_⟩
      rw [Argument.word, Address.word, ← htake, List.take_append_drop]
    | uint =>
      obtain ⟨n, -, hn⟩ := exists_uintWord hw
      exact ⟨.uint n, rfl, hn⟩

theorem exists_words_iff {types : List ArgumentType} {data : Bytes} :
    (∃ args : List Argument, args.map Argument.type = types ∧
        (args.map Argument.word).flatten = data) ↔
      data.length = types.length * wordSize ∧ ZeroFilled types data := by
  induction types generalizing data with
  | nil =>
    constructor
    · rintro ⟨args, htypes, rfl⟩
      cases List.map_eq_nil_iff.mp htypes
      exact ⟨rfl, fun _ hi => nomatch hi⟩
    · rintro ⟨hlength, -⟩
      exact ⟨[], rfl, (List.eq_nil_of_length_eq_zero (by simpa using hlength)).symm⟩
  | cons t types ih =>
    constructor
    · rintro ⟨args, htypes, rfl⟩
      obtain ⟨a, args, rfl, rfl, rfl⟩ := List.map_eq_cons_iff.mp htypes
      obtain ⟨hlength, hzeros⟩ := ih.mp ⟨args, rfl, rfl⟩
      refine ⟨?_, (zeroFilled_cons a.length_word).mpr
        ⟨(exists_argument_iff a.length_word).mp ⟨a, rfl, rfl⟩, hzeros⟩⟩
      rw [length_flatten_words, List.length_cons, List.length_cons, List.length_map]
    · rintro ⟨hlength, hzeros⟩
      rw [List.length_cons, Nat.succ_mul] at hlength
      have hw : (data.take wordSize).length = wordSize := by
        rw [List.length_take]
        omega
      have hrest : (data.drop wordSize).length = types.length * wordSize := by
        rw [List.length_drop]
        omega
      rw [← List.take_append_drop wordSize data, zeroFilled_cons hw] at hzeros
      obtain ⟨a, rfl, ha⟩ := (exists_argument_iff hw).mpr hzeros.1
      obtain ⟨args, rfl, hargs⟩ := ih.mpr ⟨hrest, hzeros.2⟩
      refine ⟨a :: args, rfl, ?_⟩
      rw [List.map_cons, List.flatten_cons, ha, hargs, List.take_append_drop]

theorem splitSelector_encodeCall {selector : Bytes} (hselector : selector.length = 4)
    (words : List Bytes) :
    splitSelector (encodeCall selector words) = .ok (selector, words.flatten) := by
  have hlong : ¬(selector ++ words.flatten).length < 4 := by
    rw [List.length_append]
    omega
  rw [encodeCall, splitSelector, if_neg hlong, List.splitAt_eq, List.take_left' hselector,
    List.drop_left' hselector]

/-- Calldata and the calls that it denotes determine each other. A selector and its words are found again
in the calldata that they make up, and arguments are read from their words, each in its place. In data
whose length is a number of 64 bits all readings succeed just if it has one word for each of them and
twelve zeros in front of each address, and then the data is the words of what is read. So no two texts
of calldata denote the same call. -/
theorem calldata_is_canonical :
    (∀ (selector : Bytes) (words : List Bytes), selector.length = 4 →
        splitSelector (encodeCall selector words) = .ok (selector, words.flatten)) ∧
      (∀ args : List Argument, args.length * wordSize < 2 ^ (64 : Nat) →
        outcomes (args.map Argument.word).flatten (args.map Argument.type) = .ok (args.map .ok)) ∧
      (∀ (data : Bytes) (types : List ArgumentType), data.length < 2 ^ (64 : Nat) →
        ((∃ args : List Argument, outcomes data types = .ok (args.map .ok)) ↔
          data.length = wordSize * types.length ∧ ZeroFilled types data)) ∧
      (∀ (data : Bytes) (types : List ArgumentType) (args : List Argument),
        outcomes data types = .ok (args.map .ok) →
          args.map Argument.type = types ∧ (args.map Argument.word).flatten = data) ∧
      ∀ (input input' selector : Bytes) (args : List Argument),
        Denotes input selector args → Denotes input' selector args → input = input' := by
  refine ⟨fun selector words h => splitSelector_encodeCall h words, fun args => outcomes_words,
    fun data types hsize => ?_, fun data types args => eq_words_of_outcomes, ?_⟩
  · rw [Nat.mul_comm, ← exists_words_iff]
    constructor
    · exact fun ⟨args, h⟩ => ⟨args, eq_words_of_outcomes h⟩
    · rintro ⟨args, rfl, rfl⟩
      rw [length_flatten_words] at hsize
      exact ⟨args, outcomes_words hsize⟩
  · rintro input input' selector args ⟨data, hsplit, hread⟩ ⟨data', hsplit', hread'⟩
    rw [splitSelector_eq_ok hsplit, splitSelector_eq_ok hsplit', ← (eq_words_of_outcomes hread).2,
      ← (eq_words_of_outcomes hread').2]

/-- A transfer of 500 to an address, and the same with a byte in front of the address that is not
zero. -/
theorem transfer_is_canonical :
    let args : List Argument := [.address (.ofLow 0xbeef), .uint 500]
    let call := encodeCall [0xa9, 0x05, 0x9c, 0xbb] (args.map Argument.word)
    Denotes call [0xa9, 0x05, 0x9c, 0xbb] args ∧
      ¬∃ args' : List Argument, outcomes ((call.drop 4).set 11 1) [.address, .uint] =
        .ok (args'.map .ok) := by
  intro args call
  obtain ⟨hsplit, hread, haccepted, -, -⟩ := calldata_is_canonical
  refine ⟨⟨_, hsplit _ _ rfl, hread args (by decide)⟩, fun haccepts => ?_⟩
  obtain ⟨-, hzeros⟩ := (haccepted _ _ (by decide)).mp haccepts
  exact absurd (hzeros 0 rfl 11 (by decide)) (by decide)

end EvmBank.Abi
