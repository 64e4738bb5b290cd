import EvmBank.Digest.Keccak
import EvmBank.Quantity

/-!
The binary interface of contracts, as far as calls with arguments of one word go: four bytes that
name the method, and then 32 bytes for each argument. An address fills its word from the right.
-/

namespace EvmBank

inductive InputError where
  | noSelector (length : Nat)
  | wrongLength (count length : Nat)
  | missingArgument
  | notAnAddress (index : Nat)
deriving DecidableEq

def InputError.message : InputError → String
  | noSelector length => s!"calldata of {length} bytes has no selector"
  | wrongLength count length => s!"expected {count} arguments, got {length} bytes"
  | missingArgument => "missing argument"
  | notAnAddress index => s!"argument {index} is not an address"

namespace Abi

def wordSize : Nat := 32

/-- The first four bytes of the digest of a method's signature. -/
def selector (signature : String) : Bytes :=
  (Digest.keccak256 (Bytes.ofText signature)).bytes.take 4

def uintWord (n : Amount) : Bytes := Bytes.bigEndian wordSize n.toNat

def boolWord (b : Bool) : Bytes := uintWord (if b then 1 else 0)

inductive ArgumentType where
  | address
  | uint
deriving DecidableEq

inductive Argument where
  | address (value : Address)
  | uint (value : Amount)
deriving DecidableEq

def Argument.type : Argument → ArgumentType
  | .address _ => .address
  | .uint _ => .uint

def Argument.word : Argument → Bytes
  | .address value => value.word
  | .uint value => uintWord value

def encodeCall (selector : Bytes) (words : List Bytes) : Bytes := selector ++ words.flatten

/-- What marks the reason of a failure: the selector of `Error(string)`. -/
def reasonSelector : Bytes := [0x08, 0xc3, 0x79, 0xa0]

/-- The reason of a failure as return data: its place, its length, and its bytes filled up with
zeros to whole words. -/
def encodeReason (reason : String) : Bytes :=
  let text := Bytes.ofText reason
  let padded := (text.length + 31) / wordSize * wordSize
  reasonSelector ++ uintWord 32 ++ uintWord (Quantity.clamp text.length) ++ text ++
    List.replicate (padded - text.length) 0

/-- The selector and what stands behind it. -/
def splitSelector (input : Bytes) : Except InputError (Bytes × Bytes) :=
  if input.length < 4 then .error (.noSelector input.length) else .ok (input.splitAt 4)

/-- The arguments that were not read yet, and how many were. -/
structure Cursor where
  rest : Bytes
  index : Nat

/-- How many bytes `count` arguments take, as a size of 64 bits, which wraps round. -/
def argumentsSize (count : Nat) : Nat := (UInt64.ofNat (count * wordSize)).toNat

/-- Expects exactly as many bytes as `count` arguments take. Where that size wraps round, it is the
reading of an argument that finds too few. -/
def Cursor.ofArguments (data : Bytes) (count : Nat) : Except InputError Cursor :=
  if data.length = argumentsSize count then .ok ⟨data, 0⟩ else .error (.wrongLength count data.length)

/-- Reading arguments one after the other. -/
abbrev Reader := ExceptT InputError (StateM Cursor)

def word : Reader Bytes := do
  let c ← get
  let w := c.rest.take wordSize
  if w.length < wordSize then
    throw .missingArgument
  set (Cursor.mk (c.rest.drop wordSize) (c.index + 1))
  return w

/-- Reads an address. The twelve bytes in front of it have to be zero; where they are not, the
word counts as read. -/
def address : Reader Address := do
  let index := (← get).index
  let w ← word
  if (w.take 12).all (· = 0) then
    match Address.ofBytes? (w.drop 12) with
    | some a => return a
    | none => throw .missingArgument
  else
    throw (.notAnAddress index)

def uint : Reader Amount := do
  return Quantity.clamp (Bytes.ofBigEndian (← word))

def argument : ArgumentType → Reader Argument
  | .address => return .address (← address)
  | .uint => return .uint (← uint)

/-- Reads arguments with `reader` from data that should hold `count` words. -/
def read {α : Type} (data : Bytes) (count : Nat) (reader : Reader α) : Except InputError α := do
  let c ← Cursor.ofArguments data count
  (reader.run.run c).1

end Abi

end EvmBank
