import EndSession.Text.Split

/-
This file reads IPv4 and IPv6 addresses and tells which of them stay on the same machine.
-/

namespace EndSession.Net

open Text

/-- An address of four octets or of eight groups of sixteen bits. -/
inductive Address where
  | v4 (octets : List Nat)
  | v6 (groups : List Nat)
deriving DecidableEq

namespace Address

/-- A decimal octet of up to three digits, without a leading zero. -/
def readOctet? (text : List CodePoint) : Option Nat :=
  if text.isEmpty || !text.all CodePoint.isDigit || 3 < text.length then none
  else if text != [CodePoint.char '0'] && text.head? == some (CodePoint.char '0') then none
  else
    let value := text.foldl (fun total digit => 10 * total + (digit.toNat - '0'.toNat)) 0
    if value < 256 then some value else none

/-- Four octets between dots. -/
def readOctets? (text : List CodePoint) : Option (List Nat) :=
  match splitOn '.' text with
  | [a, b, c, d] => [a, b, c, d].mapM readOctet?
  | _ => none

/-- The value of a hexadecimal digit. -/
def hexValue? (digit : CodePoint) : Option Nat :=
  let code := digit.toNat
  if '0'.toNat ≤ code ∧ code ≤ '9'.toNat then some (code - '0'.toNat)
  else if 'a'.toNat ≤ code ∧ code ≤ 'f'.toNat then some (code - 'a'.toNat + 10)
  else if 'A'.toNat ≤ code ∧ code ≤ 'F'.toNat then some (code - 'A'.toNat + 10)
  else none

/-- A group of one to four hexadecimal digits. -/
def readGroup? (text : List CodePoint) : Option Nat :=
  if text.isEmpty || 4 < text.length then none
  else (text.mapM hexValue?).map fun digits => digits.foldl (fun total digit => 16 * total + digit) 0

/-- Groups between colons. The last one may be an IPv4 address, which counts as two. -/
def readTail? : List (List CodePoint) → Option (List Nat)
  | [] => some []
  | [last] =>
    if last.contains '.' then
      match readOctets? last with
      | some [a, b, c, d] => some [256 * a + b, 256 * c + d]
      | _ => none
    else (readGroup? last).map fun group => [group]
  | group :: rest => do
    let value ← readGroup? group
    let values ← readTail? rest
    some (value :: values)

/-- The parts between colons, of which an empty text has none. -/
def groupsOf (text : List CodePoint) : List (List CodePoint) :=
  if text.isEmpty then [] else splitOn ':' text

/-- The texts in front of and behind the first two colons in a row. -/
def cutAtGap? : List CodePoint → Option (List CodePoint × List CodePoint)
  | .char ':' :: .char ':' :: rest => some ([], rest)
  | point :: rest => (cutAtGap? rest).map fun cut => (point :: cut.1, cut.2)
  | [] => none

/-- Eight groups, or fewer with one gap, which stands for at least one group of zero. -/
def readGroups? (text : List CodePoint) : Option (List Nat) :=
  match cutAtGap? text with
  | none => (readTail? (splitOn ':' text)).filter fun groups => groups.length = 8
  | some (head, tail) => do
    let early ← (groupsOf head).mapM readGroup?
    let late ← readTail? (groupsOf tail)
    if early.length + late.length < 8 then
      some (early ++ List.replicate (8 - (early.length + late.length)) 0 ++ late)
    else none

/-- An IPv6 address may name a zone behind a percent sign. -/
def readZoned? (text : List CodePoint) : Option (List Nat) :=
  if text.contains '%' then
    let zone := after '%' text
    if zone.isEmpty || zone.contains '%' then none else readGroups? (before '%' text)
  else readGroups? text

/-- The address that a text denotes. -/
def read? (text : List CodePoint) : Option Address :=
  if text.contains '/' then none
  else
    match readOctets? text with
    | some octets => some (v4 octets)
    | none => (readZoned? text).map v6

/-- An IPv4 address is a loopback address when its first octet is 127. -/
def isLoopbackOctets (octets : List Nat) : Bool :=
  octets.head? == some 127

/-- A loopback address: an IPv4 one, the IPv6 address one, or an IPv4 one mapped to IPv6. -/
def isLoopback : Address → Bool
  | v4 octets => isLoopbackOctets octets
  | v6 groups =>
    groups == [0, 0, 0, 0, 0, 0, 0, 1] ||
      groups.take 6 == [0, 0, 0, 0, 0, 0xFFFF] &&
        isLoopbackOctets ((groups.drop 6).flatMap fun group => [group / 256, group % 256])

/-- Every IPv6 address has eight groups. -/
theorem length_readGroups {text : List CodePoint} {groups : List Nat}
    (read : readGroups? text = some groups) : groups.length = 8 := by
  simp only [readGroups?] at read
  split at read
  · rw [Option.filter_eq_some_iff] at read
    simpa using read.2
  · rename_i head tail cut
    cases early : (groupsOf head).mapM readGroup? with
    | none => simp [early] at read
    | some first =>
        cases late : readTail? (groupsOf tail) with
        | none => simp [early, late] at read
        | some last =>
            simp only [early, late, Option.bind_eq_bind, Option.bind_some] at read
            split at read
            · cases read
              simp only [List.length_append, List.length_replicate]
              omega
            · cases read

end Address

end EndSession.Net
