import Workflow.Text.Digit
import Workflow.Text.Decimal
import Workflow.Text.Split

/-! Numeric hosts: addresses of four decimal octets and addresses of eight hexadecimal groups. -/

namespace Workflow.Url

open Text

/-- An octet: up to three digits without a leading zero, at most 255. -/
def isOctet (cs : List Char) : Bool :=
  match spanDigits asciiDigit? cs with
  | ([], _) => false
  | (ds, []) => ds.length ≤ 3 && (ds.length = 1 || ds.head? != some 0) && ofDigits ds ≤ 255
  | _ => false

/-- Four octets with points between them. -/
def isOctetAddress (cs : List Char) : Bool :=
  let parts := splitAtEach '.' cs
  parts.length = 4 && parts.all isOctet

/-- A group of one to four hexadecimal digits. -/
def isGroup (cs : List Char) : Bool :=
  !cs.isEmpty && cs.length ≤ 4 && cs.all fun c => (hexValue? c).isSome

/-- The groups of an address; an address of octets at the end stands for two of them. -/
def groupParts? (cs : List Char) : Option (List (List Char)) :=
  let parts := splitAtEach ':' cs
  if parts.length < 3 then none
  else
    match parts.getLast? with
    | some last =>
      if last.contains '.' then
        if isOctetAddress last then some (parts.dropLast ++ [['0'], ['0']]) else none
      else some parts
    | none => none

/-- The places of the empty parts that are neither first nor last. -/
def innerGaps (parts : List (List Char)) : List Nat :=
  (List.range parts.length).filter fun i =>
    0 < i && i + 1 < parts.length && (parts[i]?.getD []).isEmpty

/-- The groups on one side of a gap; the outermost one is empty when the gap is at that end of the
address. -/
def isSide (outer : Option (List Char)) (groups : List (List Char)) : Bool :=
  if outer = some [] then groups = [[]] else groups.all isGroup

/-- How many groups one side of a gap has. -/
def sideSize (groups : List (List Char)) : Nat := if groups = [[]] then 0 else groups.length

/-- Eight groups, or fewer with one gap that stands for at least one. -/
def isGroupAddress (cs : List Char) : Bool :=
  match splitAtEach '%' cs with
  | [address] | [address, _ :: _] =>
    match groupParts? address with
    | none => false
    | some parts =>
      if 9 < parts.length then false
      else
        match innerGaps parts with
        | [] => parts.length = 8 && parts.all isGroup
        | [gap] =>
          let before := parts.take gap
          let after := parts.drop (gap + 1)
          isSide before.head? before && isSide after.getLast? after &&
            sideSize before + sideSize after < 8
        | _ => false
  | _ => false

/-- Why a host in brackets is refused. -/
inductive HostProblem where
  | futureVersion
  | octets
  | noAddress (host : String)
  deriving DecidableEq

/-- A host of a later version: its number, a point and more. -/
def isFutureHost (cs : List Char) : Bool :=
  match cs with
  | 'v' :: rest =>
    let version := rest.takeWhile fun c => (hexValue? c).isSome
    match rest.dropWhile fun c => (hexValue? c).isSome with
    | '.' :: _ :: _ => !version.isEmpty
    | _ => false
  | _ => false

/-- Checks a host that stands in brackets. -/
def hostProblem? (cs : List Char) : Option HostProblem :=
  if cs.head? = some 'v' then
    if isFutureHost cs then none else some .futureVersion
  else if isOctetAddress cs then some .octets
  else if isGroupAddress cs && !cs.contains '/' then none
  else some (.noAddress (String.ofList cs))

end Workflow.Url
