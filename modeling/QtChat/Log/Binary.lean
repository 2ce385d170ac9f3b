import QtChat.Server.Database

/-!
# Binary dumps in the log

`CAsyncLog::outputBinary` (`AsyncLog.cpp`) writes a buffer as rows of 32 bytes: 512 bytes at a time
through `char szbuf[PRINTSIZE * 3 + 8]`, which `formLog` fills. A write past the end of a buffer is
`none`, and so is an `index++` past the largest `int`.
-/

namespace QtChat

/-! ## C buffers -/

/-- `buf[i] = b`. -/
def put (buf : Str) (i : Nat) (b : UInt8) : Option Str :=
  if i < buf.length then some (buf.set i b) else none

/-- `strcat`: behind the first NUL, with a NUL of its own. -/
def strcat (buf s : Str) : Option Str :=
  if (cstr buf).length + s.length < buf.length then
    some (cstr buf ++ s ++ 0 :: buf.drop ((cstr buf).length + s.length + 1))
  else none

/-! ## formLog -/

/-- `CAsyncLog::ullto4Str`: `%06u`. -/
def ullto4Str (n : Nat) : Str := List.replicate (6 - (digits n).length) 48 ++ digits n

/-- `szchar[n]`. -/
def szchar (n : UInt8) : UInt8 := (txt "0123456789abcdef").getD n.toNat 0

/-- The variables of `formLog`. -/
structure FormLog where
  szbuf : Str
  len : Nat
  lsize : Nat
  headlen : Nat
  /-- The caller's, by reference. -/
  index : Nat

namespace FormLog

/-- `szbuf[len++] = b`. -/
def append (s : FormLog) (b : UInt8) : Option FormLog :=
  (put s.szbuf s.len b).map fun szbuf => { s with szbuf, len := s.len + 1 }

/-- The number of a row, and `index++`. -/
def number (s : FormLog) : Option FormLog :=
  if s.index < maxInt then
    (strcat s.szbuf (ullto4Str s.index ++ [32])).map fun szbuf =>
      { s with
        szbuf
        len := s.len + (ullto4Str s.index ++ [32]).length
        headlen := (ullto4Str s.index ++ [32]).length
        index := s.index + 1 }
  else none

/-- The head of a row, on a new line unless it is the first. -/
def head (s : FormLog) : Option FormLog :=
  (if s.headlen ≠ 0 then s.append 10 else some s).bind number

/-- The two characters of a byte, and `lsize++`. -/
def hex (s : FormLog) (b : UInt8) : Option FormLog :=
  (s.append (szchar ((b >>> 4) &&& 0xf))).bind fun s =>
    (s.append (szchar (b &&& 0xf))).map fun s => { s with lsize := s.lsize + 1 }

/-- One round of the loop. -/
def byte (s : FormLog) (b : UInt8) : Option FormLog :=
  (if s.lsize % 32 = 0 then s.head else some s).bind fun s =>
    (if s.lsize % 16 = 0 ∧ s.headlen ≠ 0 then s.append 32 else some s).bind (hex · b)

/-- The loop over the bytes that are left; it stops early where `len + 10 < size_buf` fails. -/
def loop (size_buf : Nat) : List UInt8 → FormLog → Option FormLog
  | [], s => some s
  | b :: bs, s => if s.len + 10 < size_buf then (s.byte b).bind (loop size_buf bs) else some s

end FormLog

/-- `CAsyncLog::formLog`, with its variables at the end. -/
def formLog (index : Nat) (szbuf : Str) (size_buf : Nat) (buffer : List UInt8) :
    Option FormLog := do
  let s ← FormLog.loop size_buf buffer ⟨szbuf, 0, 0, 0, index⟩
  let s ← s.append 10
  s.append 0

/-! ## outputBinary -/

def PRINTSIZE : Nat := 512

/-- `szbuf` after the `memset`. -/
def zeroed : Str := List.replicate (PRINTSIZE * 3 + 8) 0

/-- The loop of `outputBinary` on what is left of the buffer: what `os` gets. -/
def binaryRows (index : Nat) (buffer : List UInt8) : Option Str :=
  if _h : buffer = [] then some []
  else do
    let s ← formLog index zeroed zeroed.length (buffer.take PRINTSIZE)
    let os ← binaryRows s.index (buffer.drop PRINTSIZE)
    some (cstr s.szbuf ++ os)
termination_by buffer.length
decreasing_by
  have := List.length_pos_iff.mpr _h
  simp only [List.length_drop, PRINTSIZE]
  omega

/-- The line with the address, as a `long`. -/
def addressLine (address : Int) (size : Nat) : Str :=
  txt "address[" ++ decimal address ++ txt "] size[" ++ digits size ++ txt "] \n"

/-- `CAsyncLog::outputBinary`: the text that it queues. -/
def outputBinary (address : Int) (buffer : List UInt8) : Option Str :=
  (binaryRows 0 buffer).map (addressLine address buffer.length ++ ·)

end QtChat
