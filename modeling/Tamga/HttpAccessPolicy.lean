/-
Which destinations the program may contact (`net/HttpAccessPolicy.cpp`), and the parts of an
HTTP message that decide where a redirect leads (`net/HttpMessageSyntax.cpp`).

URLs of revocation, issuer and timestamp services come from certificates.  The policy looks at
the host name of a URL and at the addresses that a resolver gives for it.

* `checkDestination_allowed` — what an allowed destination has passed;
* `resolveHttpRedirectUrl_absolute` — an absolute location is taken as it stands.
-/
import Tamga.Basic
import Tamga.Slice

namespace Tamga.Net

open Slices List

/-! ### URLs -/

/-- ASCII letters in lower case. -/
def lowerAscii (value : List Char) : List Char := value.map Char.toLower

/-- The parts of a URL that the policy looks at. -/
structure DestinationUrl where
  scheme : String := ""
  host : String := ""
  valid : Bool := false
  deriving DecidableEq, Repr

/-- The host and the port of an authority.  Without a closing bracket the parser returns what
it has, otherwise it returns nothing. -/
def splitAuthority (parsed : DestinationUrl) (authority : List Char) :
    Except DestinationUrl (List Char × List Char) :=
  if authority.head? = some '[' then
    let host := authority.tail.takeWhile (· != ']')
    let rest := authority.tail.dropWhile (· != ']')
    if rest = [] ∨ host = [] then .error parsed
    else match rest.tail with
    | [] => .ok (host, [])
    | c :: port => if c ≠ ':' ∨ port = [] then .error {} else .ok (host, port)
  else
    let host := authority.takeWhile (· != ':')
    match authority.dropWhile (· != ':') with
    | [] => .ok (host, [])
    | _ :: port => if ':' ∈ port ∨ port = [] then .error {} else .ok (host, port)

/-- The number that the digits are. -/
def portValue (port : List Char) : Nat := port.foldl (fun v c => v * 10 + digitValue c) 0

/-- Digits of a number from 1 to 65535. -/
def validPort (port : List Char) : Bool :=
  port.all isDigit && portValue port != 0 && portValue port ≤ 65535

/-- The characters behind an authority. -/
def endsAuthority (c : Char) : Bool := c == '/' || c == '?' || c == '#'

/-- A URL is valid if its scheme and its authority are. -/
def parseDestinationUrl (url : String) : DestinationUrl :=
  let text := url.toList
  if text = [] ∨ text.any fun c => c == '\r' || c == '\n' || c == '\t' || c == ' ' then {}
  else match findSlice "://".toList text with
  | none => {}
  | some schemeEnd =>
    let parsed : DestinationUrl := { scheme := String.ofList (lowerAscii (text.take schemeEnd)) }
    if parsed.scheme ≠ "http" ∧ parsed.scheme ≠ "https" then parsed
    else
      let authority := (text.drop (schemeEnd + 3)).takeWhile fun c => !endsAuthority c
      if authority = [] ∨ '@' ∈ authority ∨ '\\' ∈ authority ∨ '%' ∈ authority then parsed
      else match splitAuthority parsed authority with
      | .error result => result
      | .ok (host, port) =>
        if host = [] then {}
        else if port ≠ [] ∧ !validPort port then {}
        else
          let host := lowerAscii host
          let host := if host.getLast? = some '.' then host.dropLast else host
          { parsed with host := String.ofList host, valid := host ≠ [] }

/-! ### Addresses -/

/-- The functions of the C library that read addresses and numbers.  A text that begins with a
letter after `f` is neither, and 127.0.0.1 is an address. -/
structure NetLib where
  inetPton4 : String → Option UInt32
  inetPton6 : String → Option (List UInt8)
  /-- `strtoull` with base 0, for a text that it reads to the end without an error. -/
  strtoull : String → Option Nat
  name_not_number : ∀ text : String, (text.toList.head?.any fun c => 'g' ≤ c && c ≤ 'z') = true →
    inetPton4 text = none ∧ inetPton6 text = none ∧ strtoull text = none
  loopback : inetPton4 "127.0.0.1" = some 0x7f000001

/-- Ranges that are not public. -/
def isBlockedIpv4 (address : UInt32) : Bool :=
  let first := (address >>> 24).toUInt8
  let second := (address >>> 16).toUInt8
  let third := (address >>> 8).toUInt8
  first == 0 || first == 10 || first == 127 || first ≥ 224
    || (first == 100 && second ≥ 64 && second ≤ 127)
    || (first == 169 && second == 254)
    || (first == 172 && second ≥ 16 && second ≤ 31)
    || (first == 192 && second == 168)
    || (first == 192 && second == 0 && (third == 0 || third == 2))
    || (first == 198 && (second == 18 || second == 19))
    || (first == 198 && second == 51 && third == 100)
    || (first == 203 && second == 0 && third == 113)

/-- `Ipv4FromBytes`, for the four bytes from an index on. -/
def ipv4FromBytes (bytes : List UInt8) (i : Nat) : UInt32 :=
  (bytes.getD i 0).toUInt32 <<< 24 ||| (bytes.getD (i + 1) 0).toUInt32 <<< 16 |||
    (bytes.getD (i + 2) 0).toUInt32 <<< 8 ||| (bytes.getD (i + 3) 0).toUInt32

/-- The text between the dots. -/
def dotParts : List Char → List (List Char)
  | [] => [[]]
  | '.' :: rest => [] :: dotParts rest
  | c :: rest =>
    match dotParts rest with
    | [] => [[c]]
    | part :: parts => (c :: part) :: parts

variable (lib : NetLib)

/-- The forms of `inet_aton`: one to four numbers. -/
def parseLegacyIpv4 (text : String) : Option UInt32 :=
  if text.toList.head? = none ∨ text.toList.head? = some '+' ∨ text.toList.head? = some '-' then none
  else
    let parts := dotParts text.toList
    if parts.length > 4 ∨ [] ∈ parts then none
    else match parts.mapM fun part => lib.strtoull (String.ofList part) with
    | some [a] => if a > 0xffffffff then none else some (UInt32.ofNat a)
    | some [a, b] =>
      if a > 0xff ∨ b > 0xffffff then none else some (UInt32.ofNat (a <<< 24 ||| b))
    | some [a, b, c] =>
      if a > 0xff ∨ b > 0xff ∨ c > 0xffff then none
      else some (UInt32.ofNat (a <<< 24 ||| b <<< 16 ||| c))
    | some [a, b, c, d] =>
      if a > 0xff ∨ b > 0xff ∨ c > 0xff ∨ d > 0xff then none
      else some (UInt32.ofNat (a <<< 24 ||| b <<< 16 ||| c <<< 8 ||| d))
    | _ => none

/-- What a text is as an address. -/
inductive IpClassification where
  | notAnIp
  | isPublic
  | blocked
  deriving DecidableEq, Repr

/-- The class of an IPv4 address. -/
def judgeIpv4 (address : UInt32) : IpClassification :=
  if isBlockedIpv4 address then .blocked else .isPublic

/-- The special ranges of IPv6 that are blocked as a whole. -/
def isSpecialIpv6 (b : Nat → UInt8) : Bool :=
  b 0 &&& 0xfe == 0xfc || (b 0 == 0xfe && b 1 &&& 0xc0 == 0x80) || b 0 == 0xff
    || (b 0 == 0x20 && b 1 == 0x01 && b 2 &&& 0xfe == 0x00)
    || (b 0 == 0x20 && b 1 == 0x01 && b 2 == 0x0d && b 3 == 0xb8)
    || (b 0 == 0x3f && b 1 &&& 0xf0 == 0xf0)
    || (b 0 == 0x26 && b 1 == 0x20 && b 2 == 0x00 && b 3 == 0x4f && b 4 == 0x80 && b 5 == 0x00)

/-- The part of `ClassifyIpAddress` for the sixteen bytes of an IPv6 address. -/
def judgeIpv6 (bytes : List UInt8) : IpClassification :=
  let b := fun i => bytes.getD i 0
  if (bytes.take 15).all (· == 0) && (b 15 == 0 || b 15 == 1) then .blocked
  else if (bytes.take 10).all (· == 0) && b 10 == 0xff && b 11 == 0xff then
    judgeIpv4 (ipv4FromBytes bytes 12)
  else if b 0 == 0x00 && b 1 == 0x64 && b 2 == 0xff && b 3 == 0x9b then
    if ((bytes.drop 4).take 8).all (· == 0) then judgeIpv4 (ipv4FromBytes bytes 12) else .blocked
  else if isSpecialIpv6 b then .blocked
  else if b 0 == 0x20 && b 1 == 0x02 then judgeIpv4 (ipv4FromBytes bytes 2)
  else if b 0 &&& 0xe0 == 0x20 then .isPublic
  else .blocked

/-- The class of an address in any spelling. -/
def classifyIpAddress (text : String) : IpClassification :=
  match lib.inetPton4 text with
  | some address => judgeIpv4 address
  | none =>
    match parseLegacyIpv4 lib text with
    | some address => judgeIpv4 address
    | none =>
      match lib.inetPton6 text with
      | some bytes => judgeIpv6 bytes
      | none => .notAnIp

/-- An address that may be contacted. -/
def isAllowedPublicAddress (address : String) : Bool :=
  classifyIpAddress lib address == .isPublic

/-! ### Destinations -/

/-- Names of the own machine and its network. -/
def isBlockedHostname (host : String) : Bool :=
  host ∈ ["localhost", "metadata", "instance-data", "metadata.google.internal",
      "metadata.azure.internal"]
    || [".localhost", ".local", ".internal", ".lan", ".home"].any fun ending =>
      ending.toList.isSuffixOf host.toList

/-- The answer of the policy. -/
structure HttpDestinationResult where
  allowed : Bool := false
  message : String := ""
  resolvedAddresses : List String := []
  deriving DecidableEq, Repr

/-- The addresses of a name. -/
abbrev HttpHostResolver := String → List String

/-- The characters of a host name. -/
def isHostnameChar (c : Char) : Bool := c.isAlphanum || c == '.' || c == '-'

/-- The policy on a URL: its form, its host, and the addresses of the host. -/
def checkDestination (url : String) (resolver : Option HttpHostResolver)
    (treatMissingResolverAsAllowed : Bool) : HttpDestinationResult :=
  let parsed := parseDestinationUrl url
  if !parsed.valid then
    { message := "network destination denied: malformed or unsupported HTTP(S) URL" }
  else if isBlockedHostname parsed.host then
    { message := "network destination denied: local or metadata hostname" }
  else if classifyIpAddress lib parsed.host = .blocked then
    { message := "network destination denied: non-public IP address" }
  else if classifyIpAddress lib parsed.host = .isPublic then
    { allowed := true, resolvedAddresses := [parsed.host] }
  else if !parsed.host.toList.all isHostnameChar then
    { message := "network destination denied: invalid hostname" }
  else if treatMissingResolverAsAllowed && resolver.isNone then { allowed := true }
  else
    let addresses := resolver.elim [] fun resolve => resolve parsed.host
    if addresses = [] then
      { message := "network destination denied: hostname did not resolve" }
    else if addresses.all (isAllowedPublicAddress lib) then
      { allowed := true, resolvedAddresses := addresses }
    else
      { message := "network destination denied: DNS returned a non-public address"
        resolvedAddresses := addresses }

/-- What the policy asks of the host. -/
structure HostPasses (url : String) : Prop where
  valid : (parseDestinationUrl url).valid = true
  name : isBlockedHostname (parseDestinationUrl url).host = false
  literal : classifyIpAddress lib (parseDestinationUrl url).host ≠ .blocked
  chars : classifyIpAddress lib (parseDestinationUrl url).host = .isPublic ∨
    (parseDestinationUrl url).host.toList.all isHostnameChar = true

/-- What the policy asks of the addresses. -/
def AddressesPass (addresses : List String) : Prop :=
  addresses ≠ [] ∧ ∀ address ∈ addresses, isAllowedPublicAddress lib address = true

section Check

variable {lib : NetLib} {url : String} {resolver : Option HttpHostResolver} {missing : Bool}

/-- **What an allowed destination has passed**: the policy on the name, and the policy on the
addresses unless there was no resolver to ask. -/
theorem checkDestination_allowed (h : (checkDestination lib url resolver missing).allowed = true) :
    HostPasses lib url ∧
      (AddressesPass lib (checkDestination lib url resolver missing).resolvedAddresses ∨
        missing = true ∧ resolver = none) := by
  rw [checkDestination] at h ⊢
  dsimp only at h ⊢
  -- the branches that deny are not allowed; three are left
  split_ifs at h ⊢ with hvalid hname hliteral hpublic hchars hmissing hnone hall
  all_goals rw [Bool.not_eq_true', Bool.not_eq_false] at hvalid
  · refine ⟨⟨hvalid, Bool.eq_false_iff.mpr hname, hliteral, .inl hpublic⟩,
      .inl ⟨cons_ne_nil _ _, fun address haddress => ?_⟩⟩
    rw [mem_singleton.mp haddress, isAllowedPublicAddress, hpublic]
    rfl
  all_goals
    rw [Bool.not_eq_true', Bool.not_eq_false] at hchars
    refine ⟨⟨hvalid, Bool.eq_false_iff.mpr hname, hliteral, .inr hchars⟩, ?_⟩
  · obtain ⟨hm, hnone⟩ := Bool.and_eq_true_iff.mp hmissing
    exact .inr ⟨hm, Option.isNone_iff_eq_none.mp hnone⟩
  · exact .inl ⟨hnone, all_eq_true.mp hall⟩

end Check

/-! ### Redirects -/

/-- The status codes that redirect. -/
def isRedirectStatus (status : Int) : Bool :=
  status == 301 || status == 302 || status == 303 || status == 307 || status == 308

/-- The lines of a text, each without its line feed. -/
def textLines : List Char → List (List Char)
  | [] => [[]]
  | '\n' :: rest => [] :: textLines rest
  | c :: rest =>
    match textLines rest with
    | [] => [[c]]
    | line :: lines => (c :: line) :: lines

/-- The text without blanks around it. -/
def trimSpace (text : List Char) : List Char :=
  ((text.dropWhile isSpace).reverse.dropWhile isSpace).reverse

/-- The value of a header line of this name. -/
def headerLineValue (name line : List Char) : Option (List Char) :=
  let line := if line.getLast? = some '\r' then line.dropLast else line
  if ':' ∈ line ∧ lowerAscii (line.takeWhile (· != ':')) = name then
    some (trimSpace (line.dropWhile (· != ':')).tail)
  else none

/-- The value of the first header of this name. -/
def responseHeaderValue (headers requestedName : String) : String :=
  String.ofList (((textLines headers.toList).findSome?
    (headerLineValue (lowerAscii requestedName.toList))).getD [])

def dropLastSegment (output : List Char) : List Char :=
  ((output.reverse.dropWhile (· != '/')).drop 1).reverse

/-- `RemoveDotSegments`, with the output so far. -/
def removeDotSegments : List Char → List Char → List Char
  | [], output => output
  | '.' :: '.' :: '/' :: rest, output => removeDotSegments rest output
  | '.' :: '/' :: rest, output => removeDotSegments rest output
  | '/' :: '.' :: '/' :: rest, output => removeDotSegments ('/' :: rest) output
  | ['/', '.'], output => removeDotSegments ['/'] output
  | '/' :: '.' :: '.' :: '/' :: rest, output =>
    removeDotSegments ('/' :: rest) (dropLastSegment output)
  | ['/', '.', '.'], output => removeDotSegments ['/'] (dropLastSegment output)
  | ['.'], output => output
  | ['.', '.'], output => output
  | c :: rest, output =>
    removeDotSegments (rest.dropWhile (· != '/')) (output ++ c :: rest.takeWhile (· != '/'))
termination_by input => input.length
decreasing_by
  all_goals simp only [length_cons, length_nil]
  all_goals first
    | omega
    | exact Nat.lt_succ_of_le (dropWhile_suffix _).length_le

def isQueryOrFragment (c : Char) : Bool := c == '?' || c == '#'

/-- The address of a redirect, relative to where it came from. -/
def resolveHttpRedirectUrl (base location : String) : String :=
  let text := location.toList
  if text = [] then ""
  else if "http://".toList.isPrefixOf (lowerAscii text) ||
      "https://".toList.isPrefixOf (lowerAscii text) then location
  else match findSlice "://".toList base.toList with
  | none => ""
  | some schemeEnd =>
    let rest := base.toList.drop (schemeEnd + 3)
    let authority := rest.takeWhile fun c => !endsAuthority c
    let rest := rest.dropWhile fun c => !endsAuthority c
    if schemeEnd = 0 ∨ (authority = [] ∧ rest ≠ []) then ""
    else
      let scheme := base.toList.take schemeEnd
      let origin := scheme ++ "://".toList ++ authority
      let restNoFragment := rest.takeWhile (· != '#')
      let basePath := restNoFragment.takeWhile (· != '?')
      let baseQuery := restNoFragment.dropWhile (· != '?')
      let basePath := if basePath = [] then ['/'] else basePath
      let refPath := text.takeWhile fun c => !isQueryOrFragment c
      let suffix := text.dropWhile fun c => !isQueryOrFragment c
      if "//".toList.isPrefixOf text then
        let refPath := refPath.drop 2
        let refAuthority := refPath.takeWhile (· != '/')
        if refAuthority = [] then ""
        else String.ofList (scheme ++ "://".toList ++ refAuthority ++
          removeDotSegments (refPath.dropWhile (· != '/')) [] ++ suffix)
      else if text.head? = some '#' then String.ofList (origin ++ basePath ++ baseQuery ++ text)
      else if text.head? = some '?' then String.ofList (origin ++ basePath ++ text)
      else if text.head? = some '/' then
        String.ofList (origin ++ removeDotSegments refPath [] ++ suffix)
      else
        let directory := (basePath.reverse.dropWhile (· != '/')).reverse
        let directory := if directory = [] then ['/'] else directory
        String.ofList (origin ++ removeDotSegments (directory ++ refPath) [] ++ suffix)

theorem resolveHttpRedirectUrl_absolute {base location : String}
    (h : ("http://".toList.isPrefixOf (lowerAscii location.toList) ||
      "https://".toList.isPrefixOf (lowerAscii location.toList)) = true) :
    resolveHttpRedirectUrl base location = location := by
  have hne : location.toList ≠ [] := by
    intro hnil
    rw [hnil] at h
    exact absurd h (by decide)
  rw [resolveHttpRedirectUrl, if_neg hne, if_pos h]

end Tamga.Net
