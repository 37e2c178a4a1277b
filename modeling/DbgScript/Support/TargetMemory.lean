import DbgScript.Support.Requests

/-!
# Reading the target's memory

`UtilReadAnsiString`, `UtilReadWideString` and `UtilReadBytes`
(src/support/util.cpp:233-369) with the buffers of their callers in the providers: a
zero-initialised array of `MAX_READ_STRING_LEN` characters for a string.
-/

namespace DbgScript

open CharBuf (Buf)

/-- `MAX_READ_STRING_LEN` (src/support/util.h:31). -/
def MAX_READ_STRING_LEN : ℕ := 2048

/-- `sizeof utf8buf`: the room for the UTF-8 form of a wide string. -/
def UTF8BUF_LEN : ℕ := MAX_READ_STRING_LEN * 2

/-- An `int`. -/
abbrev CInt := BitVec 32

/-- `!count || count > MAX_READ_STRING_LEN - 1`: the providers reject such a count. -/
def badCount (count : CInt) : Bool := count = 0 || (MAX_READ_STRING_LEN : ℤ) - 1 < count.toInt

/-- The count that is asked for: all of the buffer if it is negative. -/
def maxToRead (count : CInt) : ULONG :=
  if count.toInt < 0 then BitVec.ofNat 32 MAX_READ_STRING_LEN else count

/-- `UtilReadAnsiString(hostCtxt, addr, buf, MAX_READ_STRING_LEN, count)`. -/
def utilReadAnsiString (addr : UINT64) (count : CInt) :
    DsM (HRESULT × Buf CHAR MAX_READ_STRING_LEN) := do
  let buf := Buf.zero CHAR MAX_READ_STRING_LEN
  let cbMaxToRead := maxToRead count
  let r ← ask (.readMultiByteString addr (BitVec.ofNat 32 MAX_READ_STRING_LEN) cbMaxToRead)
  let buf := buf.memcpy 0 r.copied
  -- the string is cut here even if the call has failed
  let buf := if cbMaxToRead < r.cbActual then buf.setCell cbMaxToRead.toNat 0 else buf
  return (r.hr, buf)

/-- `UtilReadWideString(hostCtxt, addr, buf, MAX_READ_STRING_LEN, count)`. -/
def utilReadWideString (addr : UINT64) (count : CInt) :
    DsM (HRESULT × Buf WCHAR MAX_READ_STRING_LEN) := do
  let buf := Buf.zero WCHAR MAX_READ_STRING_LEN
  let cchMaxToRead := maxToRead count
  let r ← ask (.readUnicodeString addr (BitVec.ofNat 32 (MAX_READ_STRING_LEN * 2)) cchMaxToRead)
  let buf := buf.memcpy 0 r.copied
  if FAILED r.hr then return (r.hr, buf)
  else
    let buf := if cchMaxToRead < r.cbActual / 2 then buf.setCell cchMaxToRead.toNat 0 else buf
    return (r.hr, buf)

/-- `UtilReadBytes(hostCtxt, addr, buf, count, &cbActual)`: the bytes read. -/
def utilReadBytes (addr : UINT64) (count : ULONG) : DsM (HRESULT × List UInt8) :=
  ask (.readVirtual addr count)

end DbgScript
