import Mathlib.Data.List.Basic
import Showcase.Lib.Bytes

/-!
# `Lib.DataElement` — the data elements of the Service Discovery Protocol

An element is a value or a sequence of elements. It is sent with a header byte, the type in the upper five bits and a
size index in the lower three: the indices 0 to 4 stand for data of 1, 2, 4, 8 and 16 bytes (no byte at all for the nil
type), 5 to 7 for a length of 1, 2 or 4 bytes in front of the data.

## Contents
- `header`, `Fits` — the header, and the data that it can stand in front of;
- `Element`, `Element.encode`, `Element.wf` — elements, their bytes, and the ones that have bytes;
- `Element.uuids` — the UUIDs in an element, in the long form;
- `foldUntil` — going through a list until a step says that it is done.
-/

namespace Lib

/-! ## Headers -/

namespace DataElement

/-- The types that mean something here. -/
def typeNil : Nat := 0
def typeUint : Nat := 1
def typeUuid : Nat := 3
def typeSequence : Nat := 6

/-- The bytes of the length in front of the data. -/
def lengthBytes (size : Nat) : Nat := if size < 5 then 0 else 2 ^ (size - 5)

/-- The header of `len` bytes of data. -/
def header (type size len : Nat) : Bytes := UInt8.ofNat (type * 8 + size) :: toBE (lengthBytes size) len

/-- A header with this type and size index can stand in front of `len` bytes. -/
def Fits (type size len : Nat) : Prop :=
  type < 32 ∧ size < 8 ∧
    if size < 5 then len = if type = typeNil then 0 else 2 ^ size else len < 256 ^ lengthBytes size

instance (type size len : Nat) : Decidable (Fits type size len) := by
  unfold Fits
  infer_instance

theorem header_length (type size len : Nat) : (header type size len).length = 1 + lengthBytes size := by
  rw [header, List.length_cons, toBE_length, Nat.add_comm]

theorem header_ne_nil (type size len : Nat) : header type size len ≠ [] := List.cons_ne_nil _ _

end DataElement

open DataElement

/-! ## Elements -/

/-- A data element; the nesting of sequences is kept, and so is the form of every header. -/
inductive Element where
  | value (type size : Nat) (data : Bytes)
  | sequence (size : Nat) (elements : List Element)

namespace Element

mutual

/-- The bytes of an element. -/
def encode : Element → Bytes
  | .value type size data => header type size data.length ++ data
  | .sequence size elements => header typeSequence size (encodeAll elements).length ++ encodeAll elements

/-- The bytes of elements in a row. -/
def encodeAll : List Element → Bytes
  | [] => []
  | e :: es => e.encode ++ encodeAll es

end

mutual

/-- Every header fits, and what has the type of a sequence is one. -/
def wf : Element → Bool
  | .value type size data => type != typeSequence && decide (Fits type size data.length)
  | .sequence size elements => decide (Fits typeSequence size (encodeAll elements).length) && wfAll elements

def wfAll : List Element → Bool
  | [] => true
  | e :: es => e.wf && wfAll es

end

mutual

/-- The number of elements an element consists of, itself among them. -/
def count : Element → Nat
  | .value _ _ _ => 1
  | .sequence _ elements => 1 + countAll elements

def countAll : List Element → Nat
  | [] => 0
  | e :: es => e.count + countAll es

end

/-- The type in the header. -/
def type : Element → Nat
  | .value type _ _ => type
  | .sequence _ _ => typeSequence

/-- The size index in the header. -/
def size : Element → Nat
  | .value _ size _ => size
  | .sequence size _ => size

/-- What is behind the header. -/
def data : Element → Bytes
  | .value _ _ data => data
  | .sequence _ elements => encodeAll elements

theorem encode_eq (e : Element) : e.encode = header e.type e.size e.data.length ++ e.data := by
  cases e with
  | value type size data => rw [encode, Element.type, Element.size, Element.data]
  | sequence size elements => rw [encode, Element.type, Element.size, Element.data]

theorem fits_of_wf {e : Element} (h : e.wf = true) : Fits e.type e.size e.data.length := by
  cases e with
  | value type size data =>
      rw [wf, Bool.and_eq_true] at h
      exact of_decide_eq_true h.2
  | sequence size elements =>
      rw [wf, Bool.and_eq_true] at h
      exact of_decide_eq_true h.1

theorem encode_length (e : Element) : e.encode.length = 1 + lengthBytes e.size + e.data.length := by
  rw [encode_eq, List.length_append, header_length]

theorem encode_length_pos (e : Element) : 0 < e.encode.length := by
  rw [encode_length]
  omega

theorem encodeAll_cons (e : Element) (es : List Element) : encodeAll (e :: es) = e.encode ++ encodeAll es := by
  rw [encodeAll]

theorem wfAll_iff {es : List Element} : wfAll es = true ↔ ∀ e ∈ es, e.wf = true := by
  induction es with
  | nil => simp [wfAll]
  | cons e es ih => simp [wfAll, ih]

theorem encode_length_le_encodeAll {e : Element} {es : List Element} (h : e ∈ es) :
    e.encode.length ≤ (encodeAll es).length := by
  induction es with
  | nil => exact absurd h List.not_mem_nil
  | cons x es ih =>
      rw [encodeAll, List.length_append]
      rcases List.mem_cons.mp h with rfl | h
      · omega
      · have := ih h
        omega

theorem count_pos (e : Element) : 0 < e.count := by
  cases e with
  | value type size data =>
      rw [count]
      omega
  | sequence size elements =>
      rw [count]
      omega

theorem length_le_countAll (es : List Element) : es.length ≤ countAll es := by
  induction es with
  | nil => exact Nat.zero_le _
  | cons e es ih =>
      have := e.count_pos
      rw [countAll, List.length_cons]
      omega

theorem count_le_countAll {e : Element} {es : List Element} (h : e ∈ es) : e.count ≤ countAll es := by
  induction es with
  | nil => exact absurd h List.not_mem_nil
  | cons x es ih =>
      rw [countAll]
      rcases List.mem_cons.mp h with rfl | h
      · omega
      · have := ih h
        omega

end Element

/-! ## UUIDs -/

namespace DataElement

/-- The lower twelve bytes of the base UUID. -/
def baseUuidTail : Bytes := [0x00, 0x00, 0x10, 0x00, 0x80, 0x00, 0x00, 0x80, 0x5F, 0x9B, 0x34, 0xFB]

/-- A short UUID in the long form. -/
def longUuid (n : Nat) : Bytes := toBE 4 n ++ baseUuidTail

end DataElement

/-- The UUID that a value with this header is, in the long form. -/
def uuidOf (type size : Nat) (data : Bytes) : Option Bytes :=
  if type = typeUuid then
    if size = 1 ∨ size = 2 then some (longUuid (ofBE data)) else if size = 4 then some data else none
  else none

namespace Element

/-- The UUID that an element is. -/
def uuid : Element → Option Bytes
  | .value type size data => uuidOf type size data
  | .sequence _ _ => none

mutual

/-- The UUIDs in an element, at any depth. -/
def uuids : Element → List Bytes
  | .value type size data => (uuidOf type size data).toList
  | .sequence _ elements => uuidsAll elements

def uuidsAll : List Element → List Bytes
  | [] => []
  | e :: es => e.uuids ++ uuidsAll es

end

theorem uuidsAll_eq (es : List Element) : uuidsAll es = es.flatMap uuids := by
  induction es with
  | nil => rw [uuidsAll, List.flatMap_nil]
  | cons e es ih => rw [uuidsAll, List.flatMap_cons, ih]

end Element

/-! ## Going through a list -/

/-- The steps for the elements of a list, up to the first that says that it is done. -/
def foldUntil {α σ : Type} (f : α → σ → σ × Bool) : List α → σ → σ
  | [], s => s
  | a :: as, s => if (f a s).2 then (f a s).1 else foldUntil f as (f a s).1

end Lib
