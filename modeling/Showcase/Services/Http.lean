import Showcase.Lib.CString
import Showcase.OpenSSL

/-!
# `Services.Http` — `parse_http`

The request parser of `carplay_services.m`, on the memory from `buf` on: `m` is that memory and `len` the number
of bytes the caller vouches for. `parse_http` searches with `strstr`, which knows nothing of `len`; a search that
leaves the memory ends the process (`none`). Pointers into the buffer are offsets from `buf`, and `reads` is the
offset behind the last byte that was read.
-/

namespace Showcase

open Lib

/-- `HTTPReq`. A `char` array is given by what was written to it, the zeros behind it left out. -/
structure HTTPReq where
  method : Bytes
  path : Bytes
  protocol : Bytes
  headerStart : Option Nat
  headerLen : Nat
  body : Option Nat
  bodyLen : Nat
  contentLength : Nat
  cseq : Int
  contentType : Bytes
  xAppleHKP : Bytes
  xApplePD : Bytes
  xAppleAT : Bytes
deriving DecidableEq

/-- `memset(r, 0, sizeof(*r))`. -/
def HTTPReq.zero : HTTPReq := ⟨[], [], [], none, 0, none, 0, 0, 0, [], [], [], []⟩

/-- The difference of two pointers as a `size_t`. -/
def sizeSub (a b : Nat) : Nat := if b ≤ a then a - b else 2 ^ 64 - (b - a)

/-- An integer as a `size_t`. -/
def sizeOfInt (n : Int) : Nat := (n % 2 ^ 64).toNat

/-- `memcpy` to the beginning of an array, when there is room for a byte behind it. -/
def copyField (size : Nat) (old new : Bytes) : Bytes :=
  if new.length < size then new ++ old.drop new.length else old

/-! ## Headers -/

/-- One header line: `line` is followed by the memory `rest`. The result comes with what `atol` and `atoi` read,
    counted from the line's first byte. -/
def parseHeader (line rest : Bytes) (r : HTTPReq) : Option (HTTPReq × Nat) :=
  match memchr 58 line with
  | none => some (r, 0)
  | some nameLen =>
      let name := line.take nameLen
      let val := (line.drop (nameLen + 1)).dropWhile (· == 32)
      let valAt := line.length - val.length
      if nameLen = 14 ∧ strncaseeq name (ascii "Content-Length") then
        (atol (val ++ rest)).map fun (n, k) => ({ r with contentLength := sizeOfInt n }, valAt + k)
      else if nameLen = 12 ∧ strncaseeq name (ascii "Content-Type") then
        some ({ r with contentType := copyField 128 r.contentType val }, 0)
      else if nameLen = 12 ∧ strncaseeq (name.take 11) (ascii "X-Apple-HKP") ∧ 11 ≤ nameLen then
        some ({ r with xAppleHKP := copyField 32 r.xAppleHKP val }, 0)
      else if nameLen = 10 ∧ strncaseeq name (ascii "X-Apple-PD") then
        some ({ r with xApplePD := copyField 16 r.xApplePD val }, 0)
      else if nameLen = 10 ∧ strncaseeq name (ascii "X-Apple-AT") then
        some ({ r with xAppleAT := copyField 16 r.xAppleAT val }, 0)
      else if nameLen = 4 ∧ strncaseeq name (ascii "CSeq") then
        (atoi (val ++ rest)).map fun (n, k) => ({ r with cseq := n }, valAt + k)
      else some (r, 0)

/-- The header loop: `s` is the memory from `hp` on, `n` is `hend - hp`. -/
def headerLoop (s : Bytes) (n : Nat) (r : HTTPReq) : Option (HTTPReq × Nat) :=
  if n = 0 then some (r, 0)
  else
    match strstr crlf s with
    | .fault => none
    | .absent nul => some (r, nul + 1)
    | .found le =>
        match parseHeader (s.take le) (s.drop le) r with
        | none => none
        | some (r, k) =>
            (headerLoop (s.drop (le + 2)) (n - (le + 2)) r).map fun (r, k') =>
              (r, max (max (le + 2) k) (le + 2 + k'))
termination_by n
decreasing_by omega

/-! ## The request -/

/-- The return value of `parse_http`, the request, and what was read. -/
structure Parse where
  ret : Bool
  req : HTTPReq
  reads : Nat
deriving DecidableEq

/-- `parse_http` behind the request line: `s` is the memory from `headerStart` on, which is at `hs`. -/
def parseHeaders (s : Bytes) (hs len : Nat) (r : HTTPReq) : Option Parse :=
  match strstr crlfcrlf s with
  | .fault => none
  | .absent nul =>
      let r := { r with headerStart := some hs, headerLen := sizeSub len hs }
      (headerLoop s (len - hs) r).map fun (r, k) => ⟨r.method.headD 0 != 0, r, hs + max (nul + 1) k⟩
  | .found i =>
      let r := { r with
        headerStart := some hs, headerLen := i, body := some (hs + i + 4), bodyLen := sizeSub len (hs + i + 4) }
      (headerLoop s i r).map fun (r, k) => ⟨r.method.headD 0 != 0, r, hs + max (i + 4) k⟩

/-- `parse_http`. -/
def parseHttp (m : Bytes) (len : Nat) : Option Parse :=
  if len < 10 then some ⟨false, .zero, 0⟩
  else
    match strstr crlf m with
    | .fault => none
    | .absent nul => some ⟨false, .zero, nul + 1⟩
    | .found lineEnd =>
        let line := m.take lineEnd
        match memchr 32 line with
        | none => some ⟨false, .zero, lineEnd + 2⟩
        | some sp1 =>
            let r := { HTTPReq.zero with method := line.take (min sp1 15) }
            let line := line.drop (sp1 + 1)
            match memchr 32 line with
            | none => some ⟨false, r, lineEnd + 2⟩
            | some n =>
                let r := { r with path := line.take (min n 511), protocol := (line.drop (n + 1)).take 15 }
                parseHeaders (m.drop (lineEnd + 2)) (lineEnd + 2) len r

end Showcase
