/-! Numeric host addresses: dotted IPv4 addresses of four decimal octets without leading
zeros, and IPv6 addresses of eight hexadecimal groups, where one `::` may stand for a run of
zero groups, the last two groups may be written as an IPv4 address, and a zone may follow
a `%`. -/
namespace BookLinks.Url

/-- Whether a text is one octet of an IPv4 address. -/
def isOctet (s : String) : Bool :=
  let cs := s.toList
  !cs.isEmpty && cs.all (fun c => '0' ≤ c && c ≤ '9') && cs.length ≤ 3 &&
    !(cs.length > 1 && cs.head? == some '0') &&
    cs.foldl (fun n c => n * 10 + (c.toNat - '0'.toNat)) 0 ≤ 255

def isIpv4 (s : String) : Bool :=
  let parts := s.splitOn "."
  parts.length = 4 && parts.all isOctet

/-- Whether a text is one group of an IPv6 address: one to four hexadecimal digits. -/
def isHextet (s : String) : Bool :=
  let cs := s.toList
  !cs.isEmpty && cs.length ≤ 4 && cs.all (fun c => c.isDigit || ('a' ≤ c && c ≤ 'f') ||
    ('A' ≤ c && c ≤ 'F'))

/-- Whether the groups of an IPv6 address, split at its colons, are well formed. -/
def groupsValid (parts : List String) : Bool :=
  let n := parts.length
  if n < 3 ∨ n > 9 then false
  else
    let inner := (List.range n).filter (fun i => 0 < i ∧ i < n - 1 ∧ parts[i]? = some "")
    match inner with
    | [] =>
      n = 8 && parts.all isHextet
    | [skip] =>
      let hi := if parts.head? = some "" then skip - 1 else skip
      let lo := if parts.getLast? = some "" then n - skip - 2 else n - skip - 1
      let leadOk := parts.head? ≠ some "" || hi = 0
      let trailOk := parts.getLast? ≠ some "" || lo = 0
      leadOk && trailOk && hi + lo < 8 &&
        (parts.take hi).all isHextet && (parts.drop (n - lo)).all isHextet
    | _ => false

def isIpv6 (s : String) : Bool :=
  let (addr, zoneOk) := match s.splitOn "%" with
    | [a] => (a, true)
    | [a, zone] => (a, !zone.isEmpty)
    | _ => ("", false)
  if !zoneOk || addr.isEmpty || s.toList.contains '/' then false
  else
    let parts := addr.splitOn ":"
    if parts.length < 3 then false
    else
      match parts.getLast? with
      | some last =>
        if last.toList.contains '.' then
          isIpv4 last && groupsValid (parts.dropLast ++ ["0", "0"])
        else groupsValid parts
      | none => false

end BookLinks.Url
