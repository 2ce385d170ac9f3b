import Mathlib.Data.List.AList
import Mathlib.Data.List.DropRight
import Mathlib.Data.List.Sort
import QtChat.Server.Sql

/-!
# The configuration file

`CConfigFileReader` (`ConfigFileReader.cpp`). A file is its bytes. `loadFile` reads it through
`char buf[256]` and edits that buffer in place: it writes a NUL over the newline, over the first `#`
and over the first `=`, and `trimSpace` over the blanks behind a text. What is left of a buffer is a
C string.

`buf[strlen(buf) - 1]` is in the buffer if the file has no NUL.

`writeFile` writes the file anew, every pair through `char szPaire[128]`.
-/

namespace QtChat

/-- `std::map<std::string, std::string>`. -/
abbrev ConfigMap := AList fun _ : Str => Str

/-- `std::map::insert`: an entry that is there stays. -/
def ConfigMap.put (m : ConfigMap) (key value : Str) : ConfigMap :=
  if (m.lookup key).isSome then m else m.insert key value

/-- The entries as `std::map` iterates over them, in the order of `std::less`. -/
def ConfigMap.inOrder (m : ConfigMap) : List (Str × Str) :=
  (m.entries.map fun e => (e.1, e.2)).insertionSort fun a b => a.1 ≤ b.1

/-- What the file system does with a file that is written: whether `fopen` opens it, and how many
bytes the `n`-th `fwrite` writes, if not all. What was written is in the file after `fclose`. -/
structure Output where
  opens : Bool := true
  short : Nat → Option Nat := fun _ => none

/-- `fgets` into a buffer of `size` bytes: what it reads, up to a newline, and what is left of the
file; `none` at the end of the file. -/
def fgets (size : Nat) (fp : Str) : Option (Str × Str) :=
  if fp = [] then none
  else
    let n := min (size - 1) ((fp.takeWhile (· ≠ 10)).length + 1)
    some (fp.take n, fp.drop n)

theorem fgets_none {size : Nat} {fp : Str} (h : fgets size fp = none) : fp = [] := by
  unfold fgets at h
  split at h
  · assumption
  · cases h

/-- What `fgets` reads: a front of the file. -/
theorem fgets_some {size : Nat} {fp buf rest : Str} (h : fgets size fp = some (buf, rest)) :
    fp ≠ [] ∧ ∃ n, n = min (size - 1) ((fp.takeWhile (· ≠ 10)).length + 1) ∧
      buf = fp.take n ∧ rest = fp.drop n := by
  unfold fgets at h
  split at h
  · cases h
  · cases h
    exact ⟨‹_›, _, rfl, rfl, rfl⟩

theorem fgets_length {size : Nat} (hs : 2 ≤ size) {fp buf rest : Str}
    (h : fgets size fp = some (buf, rest)) : rest.length < fp.length := by
  obtain ⟨hne, n, hn, -, rfl⟩ := fgets_some h
  have := List.length_pos_iff.mpr hne
  rw [List.length_drop]
  omega

structure CConfigFileReader where
  m_load_ok : Bool := false
  m_config_map : ConfigMap := ∅

namespace CConfigFileReader

/-- A blank, a tab or a carriage return. -/
def isSpace (b : UInt8) : Bool := b = 32 || b = 9 || b = 13

def trimSpace (name : Str) : Option Str :=
  let start_pos := name.dropWhile isSpace
  if start_pos.length = 0 then none
  else
    let text := start_pos.rdropWhile isSpace
    if text.length ≤ 0 then none else some text

def parseLine (m : ConfigMap) (line : Str) : ConfigMap :=
  if 61 ∈ line then
    match trimSpace (line.takeWhile (· ≠ 61)), trimSpace ((line.dropWhile (· ≠ 61)).drop 1) with
    | some key, some value => m.put key value
    | _, _ => m
  else m

/-- One round of the loop, with what `fgets` has read. -/
def loadBuf (m : ConfigMap) (buf : Str) : ConfigMap :=
  let buf := if buf.getLast? = some 10 then buf.dropLast else buf
  let buf := buf.takeWhile (· ≠ 35)
  if buf.length = 0 then m else parseLine m buf

/-- The loop on what is left of the file. -/
def loop (fp : Str) (m : ConfigMap) : ConfigMap :=
  match _h : fgets 256 fp with
  | none => m
  | some (buf, rest) => loop rest (loadBuf m (cstr buf))
termination_by fp.length
decreasing_by exact fgets_length (by decide) _h

/-- `loadFile`, of what `fopen` opens. -/
def loadFile : Option Str → CConfigFileReader
  | none => {}
  | some fp => { m_load_ok := true, m_config_map := loop fp ∅ }

def getConfigName (r : CConfigFileReader) (name : Str) : Option Str :=
  if !r.m_load_ok then none else r.m_config_map.lookup name

/-- What `snprintf` leaves in `szPaire`. -/
def szPaire (key value : Str) : Str := snprintf 128 (cstr key ++ 61 :: (cstr value ++ [10]))

/-- The loop of `writeFile` from its `n`-th call of `fwrite` on: its result, and what the file has
of these pairs. -/
def writePairs (short : Nat → Option Nat) : Nat → List (Str × Str) → Int × Str
  | _, [] => (0, [])
  | n, (key, value) :: pairs =>
    let text := szPaire key value
    match short n with
    | some count => (-1, text.take count)
    | none =>
      let (ret, rest) := writePairs short (n + 1) pairs
      (ret, text ++ rest)

/-- `writeFile` on `m_config_file`: its result, and the new file; `none`: the file stays. -/
def writeFile (r : CConfigFileReader) (out : Output) : Int × Option Str :=
  if !out.opens then (-1, none)
  else
    let (ret, file) := writePairs out.short 0 r.m_config_map.inOrder
    (ret, some file)

def setConfigValue (r : CConfigFileReader) (out : Output) (name value : Str) :
    CConfigFileReader × Int × Option Str :=
  if !r.m_load_ok then (r, -1, none)
  else
    let name := cstr name
    let value := cstr value
    let m_config_map :=
      if (r.m_config_map.lookup name).isSome then r.m_config_map.replace name value
      else r.m_config_map.insert name value
    let r := { r with m_config_map := m_config_map }
    (r, r.writeFile out)

end CConfigFileReader

end QtChat
