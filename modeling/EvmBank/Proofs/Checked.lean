import EvmBank.Bytes.Endian
import EvmBank.Proofs.Fallible
import EvmBank.Quantity

/-!
# Operations with bounds

Some operations have a result only within bounds: a part of a byte string has to lie in it, a number
has to be no greater than the one it is taken from, and an entry of an array has to be there. Here they
come to a `Breach` elsewhere. An action that is written with them `Agrees` with one without if it comes
to no breach and does the same, and agreement is shown part by part.
-/

namespace EvmBank

/-- An operation was used out of its bounds. -/
inductive Breach where
  | slice (length start stop : Nat)
  | copy (length target : Nat)
  | index (length i : Nat)
  | difference (n m : Nat)
  | number (length : Nat)

/-! ## Operations with bounds -/

namespace Checked

variable {ε σ α β : Type}

/-- The bytes from one place to another, which have to be places of the byte string, in this order. -/
def slice (bytes : Bytes) (start stop : Nat) : Except Breach Bytes :=
  if start ≤ stop ∧ stop ≤ bytes.length then .ok ((bytes.take stop).drop start)
  else .error (.slice bytes.length start stop)

/-- Bytes for a place that takes exactly so many. -/
def copy (target : Nat) (bytes : Bytes) : Except Breach Bytes :=
  if bytes.length = target then .ok bytes else .error (.copy bytes.length target)

def index (entries : Array α) (i : Nat) : Except Breach α :=
  match entries[i]? with
  | some a => .ok a
  | none => .error (.index entries.size i)

def difference (n m : Nat) : Except Breach Nat :=
  if m ≤ n then .ok (n - m) else .error (.difference n m)

def amountDifference (n m : Amount) : Except Breach Amount :=
  match n.sub? m with
  | some left => .ok left
  | none => .error (.difference n.toNat m.toNat)

/-- The number that at most 32 bytes stand for. -/
def amountOfBytes (bytes : Bytes) : Except Breach Amount :=
  if bytes.length ≤ 32 then .ok (Quantity.clamp (Bytes.ofBigEndian bytes))
  else .error (.number bytes.length)

theorem slice_eq_ok {bytes : Bytes} {start stop : Nat} (h : start ≤ stop) (hs : stop ≤ bytes.length) :
    slice bytes start stop = .ok ((bytes.take stop).drop start) := if_pos ⟨h, hs⟩

theorem slice_eq_take {bytes : Bytes} {stop : Nat} (h : stop ≤ bytes.length) :
    slice bytes 0 stop = .ok (bytes.take stop) := slice_eq_ok (Nat.zero_le stop) h

theorem slice_eq_drop {bytes : Bytes} {start : Nat} (h : start ≤ bytes.length) :
    slice bytes start bytes.length = .ok (bytes.drop start) := by
  rw [slice_eq_ok h (Nat.le_refl _), List.take_length]

theorem copy_eq_ok {bytes : Bytes} {target : Nat} (h : bytes.length = target) :
    copy target bytes = .ok bytes := if_pos h

theorem difference_eq_ok {n m : Nat} (h : m ≤ n) : difference n m = .ok (n - m) := if_pos h

theorem amountDifference_eq_ok {n m left : Amount} (h : n.sub? m = some left) :
    amountDifference n m = .ok left := by
  rw [amountDifference, h]

theorem amountOfBytes_eq_ok {bytes : Bytes} (h : bytes.length ≤ 32) :
    amountOfBytes bytes = .ok (Quantity.clamp (Bytes.ofBigEndian bytes)) := if_pos h

/-! ## Actions that may come to a breach -/

/-- An action on a state that may fail, and may come to a breach. -/
abbrev Action (ε σ : Type) := ExceptT ε (StateT σ (Except Breach))

/-- An action without such operations. -/
def total (x : ExceptT ε (StateM σ) α) : Action ε σ α :=
  ExceptT.mk fun s => .ok (x.run.run s)

/-- Uses an operation with bounds. -/
def within (x : Except Breach α) : Action ε σ α :=
  ExceptT.mk fun s => x.map fun a => (.ok a, s)

/-- From `s`, the action comes to no breach, and does what the other one does. -/
def Agrees (x : Action ε σ α) (y : ExceptT ε (StateM σ) α) (s : σ) : Prop :=
  x.run.run s = .ok (y.run.run s)

variable {x : Action ε σ α} {y : ExceptT ε (StateM σ) α} {s : σ}

theorem Agrees.pure (a : α) :
    Agrees (pure a : Action ε σ α) (pure a : ExceptT ε (StateM σ) α) s := rfl

theorem Agrees.throw (e : ε) :
    Agrees (throw e : Action ε σ α) (throw e : ExceptT ε (StateM σ) α) s := rfl

theorem Agrees.get : Agrees (get : Action ε σ σ) (get : ExceptT ε (StateM σ) σ) s := rfl

theorem Agrees.modify (f : σ → σ) :
    Agrees (modify f : Action ε σ Unit) (modify f : ExceptT ε (StateM σ) Unit) s := rfl

theorem Agrees.total (y : ExceptT ε (StateM σ) α) : Agrees (total y) y s := rfl

theorem run_bind (x : Action ε σ α) (f : α → Action ε σ β) (s : σ) :
    (x >>= f).run.run s =
      match x.run.run s with
      | .ok (.ok a, s') => (f a).run.run s'
      | .ok (.error e, s') => .ok (.error e, s')
      | .error breach => .error breach := by
  rw [ExceptT.run_bind, StateT.run_bind]
  rcases x.run.run s with breach | ⟨e | a, s'⟩ <;> rfl

/-- What comes second has to agree only where the first ends. -/
theorem Agrees.bind_of {f : α → Action ε σ β} {g : α → ExceptT ε (StateM σ) β} (h : Agrees x y s)
    (hf : ∀ a s', y.run.run s = (.ok a, s') → Agrees (f a) (g a) s') :
    Agrees (x >>= f) (y >>= g) s := by
  unfold Agrees at *
  rw [run_bind, Fallible.run_bind, h]
  rcases hy : y.run.run s with ⟨e | a, s'⟩
  · rfl
  · exact hf a s' hy

theorem Agrees.bind {f : α → Action ε σ β} {g : α → ExceptT ε (StateM σ) β} (h : Agrees x y s)
    (hf : ∀ a s', Agrees (f a) (g a) s') : Agrees (x >>= f) (y >>= g) s :=
  h.bind_of fun a s' _ => hf a s'

theorem Agrees.within {b : Except Breach α} {a : α} {f : α → Action ε σ β}
    {y : ExceptT ε (StateM σ) β} (hb : b = .ok a) (hf : Agrees (f a) y s) :
    Agrees (within b >>= f) y s := by
  subst hb
  exact hf

end Checked

end EvmBank
