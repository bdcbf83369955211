import CliMetadata.Attempt
import CliMetadata.Bytes.Word

namespace CliMetadata

/-- A position in a byte string. A read that does not find all its bytes leaves the position alone;
a compressed integer is read byte by byte, and a truncated one leaves the position behind its last
byte. -/
structure Cursor where
  data : Bytes
  pos : Nat := 0

abbrev Reader (α : Type) := Attempt Cursor α

namespace Cursor

def remaining (c : Cursor) : Nat := c.data.size - c.pos

def hasMore (c : Cursor) : Bool := c.pos < c.data.size

end Cursor

namespace Reader

def onBytes {α : Type} (r : Reader α) (data : Bytes) : Except Error α := (r.run ⟨data, 0⟩).1

def position : Reader Nat := fun c ↦ (.ok c.pos, c)

def remaining : Reader Nat := fun c ↦ (.ok c.remaining, c)

def hasMore : Reader Bool := fun c ↦ (.ok c.hasMore, c)

def seek (pos : Nat) : Reader Unit := fun c ↦
  if pos ≤ c.data.size then (.ok (), { c with pos := pos }) else (.error .outOfBounds, c)

def skip (count : Nat) : Reader Unit := fun c ↦ seek (c.pos + count) c

/-- The next byte, which stays unread. -/
def peek : Reader UInt8 := fun c ↦
  match c.data[c.pos]? with
  | some b => (.ok b, c)
  | none => (.error .outOfBounds, c)

def byte : Reader UInt8 := fun c ↦
  match c.data[c.pos]? with
  | some b => (.ok b, { c with pos := c.pos + 1 })
  | none => (.error .outOfBounds, c)

def bytes (count : Nat) : Reader Bytes := fun c ↦
  match c.data.slice c.pos count with
  | .ok slice => (.ok slice, { c with pos := c.pos + count })
  | .error e => (.error e, c)

def word (width : Nat) : Reader Nat := do
  let slice ← bytes width
  pure (littleEndian slice.toList)

/-- An unsigned integer in one, two or four bytes; the high bits of the first byte tell which. -/
def compressedNat : Reader Nat := do
  let a ← byte
  if a < 0x80 then pure a.toNat
  else if a < 0xC0 then do
    let b ← byte
    pure (a.toNat % 0x40 * 0x100 + b.toNat)
  else if a < 0xE0 then do
    let b ← byte
    let c ← byte
    let d ← byte
    pure (a.toNat % 0x20 * 0x1000000 + b.toNat * 0x10000 + c.toNat * 0x100 + d.toNat)
  else throw (.malformed (.compressedInteger a))

/-- A signed integer, rotated left by one bit within the 7, 14 or 29 bits of its encoding. -/
def compressedInt : Reader Int := do
  let start ← position
  let n ← compressedNat
  let stop ← position
  let half : Nat := match stop - start with
    | 1 => 0x40
    | 2 => 0x2000
    | _ => 0x10000000
  pure (if n % 2 = 0 then (n / 2 : Nat) else ((n / 2 : Nat) : Int) - (half : Int))

/-- A type token: the low two bits select the table, and the others are laid over its row. -/
def compressedToken : Reader Token := do
  let n ← compressedNat
  match n % 4 with
  | 0 => pure (Token.ofNat (0x02000000 ||| n / 4))
  | 1 => pure (Token.ofNat (0x01000000 ||| n / 4))
  | 2 => pure (Token.ofNat (0x1B000000 ||| n / 4))
  | _ => throw (.malformed (.compressedToken n))

/-- The step again and again, at most `fuel` times, until everything is read. -/
def untilEnd {α : Type} (r : Reader α) : Nat → Reader (List α)
  | 0 => pure []
  | fuel + 1 => do
    if ← hasMore then
      let a ← r
      let rest ← untilEnd r fuel
      pure (a :: rest)
    else pure []

/-- The step until everything is read. A step that succeeds has to read at least one byte. -/
def many {α : Type} (r : Reader α) : Reader (List α) := do
  untilEnd r (← remaining)

end Reader

end CliMetadata
