import Workflow.Flate.Container
import Workflow.Http.Header
import Workflow.Text.Blank
import Workflow.Text.Split
import Workflow.Zstd.Frame

/-! The forms in which the bytes of a body may be packed, one within another. -/

namespace Workflow.Http

/-- The forms in which the bytes of a body may be packed; in the plain form they are not. -/
inductive Packing where
  | plain
  | gzip
  | deflate
  | zstd
  deriving DecidableEq

/-- What is wrong with a packed body. -/
inductive PackingFlaw where
  | deflated (flaw : Flate.Flaw)
  | framed (flaw : Zstd.Flaw)
  | incomplete
  /-- More data is asked for after complete frames. -/
  | complete
  deriving DecidableEq

def PackingFlaw.message : PackingFlaw → String
  | deflated flaw => flaw.message
  | framed flaw => flaw.message
  | incomplete => "Zstandard data is incomplete"
  | complete => "cannot use a decompressobj multiple times"

namespace Packing

def named? (name : List Char) : Option Packing :=
  match String.ofList ((Text.trimBlank name).map Char.toLower) with
  | "identity" => some .plain
  | "gzip" => some .gzip
  | "deflate" => some .deflate
  | "zstd" => some .zstd
  | _ => none

/-- Unpacks bytes as far as they go. If they are in frames, it also matters whether the last frame
is complete. -/
def unpack (p : Packing) (bytes : List Nat) : Except PackingFlaw (List Nat × Option Bool) :=
  match p with
  | plain => .ok (bytes, none)
  | gzip => (Flate.gunzip bytes |>.mapError .deflated).map (·, none)
  | deflate => (Flate.inflate bytes |>.mapError .deflated).map (·, none)
  | zstd => (Zstd.unpack bytes |>.mapError .framed).map fun c => (c.bytes, some c.isComplete)

/-- Unpacks bytes from some forms, one after the other. The answer also tells of each form that
uses frames whether the last frame is complete. -/
def unpackEach : List Packing → List Nat → Except PackingFlaw (List Nat × List Bool)
  | [], bytes => return (bytes, [])
  | p :: rest, bytes => do
    let (bytes, isComplete) ← p.unpack bytes
    let (bytes, more) ← unpackEach rest bytes
    return (bytes, isComplete.toList ++ more)

/-- Unpacks a body. Frames have to be complete. In one of several forms, frames are asked for more
data at the end of the body; that is a flaw also if they are complete. -/
def unpackAll (packings : List Packing) (bytes : List Nat) : Except PackingFlaw (List Nat) := do
  let isOneOfMany := 1 < packings.length
  let (unpacked, complete) ←
    if bytes.isEmpty then
      pure ([], if isOneOfMany && packings.contains .zstd then [false] else [])
    else unpackEach packings bytes
  match complete with
  | [] => return unpacked
  | false :: _ => throw .incomplete
  | true :: _ => if isOneOfMany then throw .complete else return unpacked

end Packing

/-- The packings that header lines tell, the last one first; others are passed over. -/
def Headers.packings (headers : Headers) : List Packing :=
  match headers.value? "content-encoding" with
  | some value => ((Text.splitAtEach ',' value.toList).filterMap Packing.named?).reverse
  | none => []

end Workflow.Http
