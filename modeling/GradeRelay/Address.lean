import GradeRelay.Address.Numeric
/-!
# Addresses that requests go to

An address is a scheme, a colon, and what the scheme makes of the rest: as a rule a host after two
slashes, perhaps with a user in front and a socket number behind, then a path, and what follows
it. `Address.parse?` takes an address apart and `Address.spelling` writes it the one way in which
it is repeated; the user is not. `Address.fault?` tells why no request can be built for an address.

* `visible_of_mem_escape`: what is spelled holds visible ASCII characters only;
* `settle_eq_append`: segments stay as they are if none is of dots alone;
* `scheme_of_fault?_eq_none`: a request can be built only for an address on the web.
-/

namespace GradeRelay

/-- An address in parts, each as it is spelled. -/
structure Address where
  scheme : List Char
  /-- The host, if there is a place for one; it may be left empty. -/
  host : Option (List Char) := none
  /-- The socket number, unless it goes without saying. -/
  socket : Option Nat := none
  path : List Char := []
  /-- What follows the path, from the question mark or the number sign on. -/
  tail : List Char := []
  deriving DecidableEq, Repr, Inhabited

namespace Address

/-! ## The scheme -/

/-- What stands around an address and does not count. -/
def isMargin (c : Char) : Bool := c.toNat ≤ 0x20

/-- A character that an address is read without. -/
def isDropped (c : Char) : Bool := c = '\t' || c = '\n' || c = '\r'

/-- An address without what does not count. -/
def trim (url : List Char) : List Char :=
  let front := url.dropWhile isMargin
  ((front.reverse.dropWhile isMargin).reverse).filter fun c => !isDropped c

/-- A character that a scheme may hold. -/
def isSchemeChar (c : Char) : Bool := c.isAlphanum || c = '+' || c = '-' || c = '.'

/-- The scheme in lower case, and what follows its colon. -/
def split? (url : List Char) : Option (List Char × List Char) :=
  let cs := trim url
  let scheme := cs.takeWhile isSchemeChar
  match cs.dropWhile isSchemeChar with
  | ':' :: rest =>
    if scheme.head?.any Char.isAlpha then some (scheme.map Char.toLower, rest) else none
  | _ => none

/-- The schemes of addresses on the web. -/
def webSchemes : List (List Char) := ["http".toList, "https".toList]

/-- The schemes whose addresses have to name a host, with the socket number that goes without
saying. -/
def hostSchemes : List (List Char × Nat) :=
  [("http".toList, 80), ("https".toList, 443), ("ws".toList, 80), ("wss".toList, 443),
    ("ftp".toList, 21)]

/-- The scheme of a file on a machine. -/
def fileScheme : List Char := "file".toList

/-! ## Spelling -/

/-- A byte as a percent sign and two hexadecimal digits. -/
def escapeByte (b : UInt8) : List Char :=
  let digit (n : Nat) := Char.ofNat (if n < 10 then 48 + n else 55 + n)
  ['%', digit (b.toNat / 16), digit (b.toNat % 16)]

/-- A character as it stands in an address: itself, or byte by byte if it is reserved, a control
or beyond ASCII. -/
def escape (reserved : List Char) (c : Char) : List Char :=
  if c.toNat < 0x20 || 0x7e < c.toNat || reserved.contains c then
    (String.utf8EncodeChar c).flatMap escapeByte
  else [c]

theorem visible_of_mem_escapeByte {b : UInt8} {d : Char} (h : d ∈ escapeByte b) :
    0x20 ≤ d.toNat ∧ d.toNat ≤ 0x7e := by
  have hd : ∀ n < 16, 0x20 ≤ (Char.ofNat (if n < 10 then 48 + n else 55 + n)).toNat
      ∧ (Char.ofNat (if n < 10 then 48 + n else 55 + n)).toNat ≤ 0x7e := by decide
  have hb : b.toNat < 256 := b.toNat_lt
  simp only [escapeByte, List.mem_cons, List.not_mem_nil, or_false] at h
  rcases h with rfl | rfl | rfl
  · decide
  · exact hd _ (by omega)
  · exact hd _ (by omega)

theorem visible_of_mem_escape {reserved : List Char} {c d : Char} (h : d ∈ escape reserved c) :
    0x20 ≤ d.toNat ∧ d.toNat ≤ 0x7e := by
  unfold escape at h
  split at h
  · obtain ⟨b, -, hb⟩ := List.mem_flatMap.1 h
    exact visible_of_mem_escapeByte hb
  · next hc =>
    simp only [Bool.or_eq_true, decide_eq_true_eq, not_or] at hc
    rw [List.mem_singleton.1 h]
    omega

/-- The characters that cannot stand in what follows a number sign. -/
def fragmentReserved : List Char := " \"<>\x60".toList

/-- The characters that cannot stand in a path. -/
def pathReserved : List Char := " \"<>\x60#?\x7b\x7d".toList

/-- The characters that cannot stand in what follows a question mark. -/
def queryReserved : List Char := " \"#<>".toList

/-- The address is over here, but for what follows the path. -/
def endsPath (c : Char) : Bool := c = '?' || c = '#'

/-- What follows the path. Where hosts have to be named, the apostrophe is reserved as well. -/
def tailOf (strict : Bool) : List Char → List Char
  | '?' :: cs =>
    let reserved := if strict then '\'' :: queryReserved else queryReserved
    '?' :: (cs.takeWhile (· != '#')).flatMap (escape reserved)
      ++ (cs.dropWhile (· != '#')).flatMap (escape fragmentReserved)
  | cs => cs.flatMap (escape fragmentReserved)

/-! ## Paths -/

/-- A segment in which the dots that are written by their number are written as dots. -/
def undot : List Char → List Char
  | '%' :: '2' :: 'e' :: rest => '.' :: undot rest
  | '%' :: '2' :: 'E' :: rest => '.' :: undot rest
  | c :: rest => c :: undot rest
  | [] => []

/-- The segments that are left, after those in front, when the ones that lead nowhere and the ones
that lead back are followed. A path that ends in such a segment ends in a slash. -/
def settle (front : List (List Char)) : List (List Char) → List (List Char)
  | [] => front
  | s :: rest =>
    let front :=
      if undot s = ['.'] then front
      else if undot s = ['.', '.'] then front.dropLast
      else front ++ [s]
    if rest.isEmpty && (undot s = ['.'] || undot s = ['.', '.']) then front ++ [[]]
    else settle front rest

theorem settle_eq_append {front segments : List (List Char)}
    (h : ∀ s ∈ segments, undot s ≠ ['.'] ∧ undot s ≠ ['.', '.']) :
    settle front segments = front ++ segments := by
  induction segments generalizing front with
  | nil => simp [settle]
  | cons s rest ih =>
    have hs := h s (by simp)
    have hr : settle (front ++ [s]) rest = front ++ [s] ++ rest :=
      ih fun t ht => h t (by simp [ht])
    simp [settle, hs, hr]

/-- A slash of either kind. -/
def isSlash (c : Char) : Bool := c = '/' || c = '\\'

/-- The segments of the path that begins after a slash. -/
def segments (strict : Bool) (cs : List Char) : List (List Char) :=
  let cs := cs.takeWhile fun c => !endsPath c
  let cs := if strict then cs.map fun c => if isSlash c then '/' else c else cs
  settle [] (Text.pieces '/' cs)

/-- A path of segments. -/
def pathOf (segments : List (List Char)) : List Char :=
  '/' :: Text.join '/' (segments.map (·.flatMap (escape pathReserved)))

/-! ## Hosts -/

/-- A character that no host holds as it stands. -/
def isForbidden (c : Char) : Bool := c.toNat ≤ 0x20 || "#/:<>?@[\\]^|".toList.contains c

/-- A character that a host's name may hold. Names beyond ASCII are not taken, nor are characters
written by their number. -/
def isNameChar (c : Char) : Bool := !isForbidden c && c != '%' && c.toNat < 0x7f

/-- A label in the encoded spelling of names beyond ASCII. -/
def isEncodedLabel (label : List Char) : Bool :=
  "xn--".toList.isPrefixOf (label.map Char.toLower)

/-- A host by its name, or by a dotted number if its last part is a number. -/
def isHost (host : List Char) : Bool :=
  !host.isEmpty && host.all isNameChar && !(Text.pieces '.' host).any isEncodedLabel
    && (!endsInNumber host || isDottedNumber host)

/-- A host by a number in brackets. -/
def isBracketed : List Char → Bool
  | '[' :: cs => cs.getLast? = some ']' && isBracketedNumber cs.dropLast
  | _ => false

/-- The host as it is spelled. Where hosts have to be named it is a name or a number, elsewhere
anything without a forbidden character. -/
def host? (strict : Bool) (host : List Char) : Option (List Char) :=
  if isBracketed host then some (host.map Char.toLower)
  else if strict then (if isHost host then some (host.map Char.toLower) else none)
  else if host.any isForbidden then none
  else some (host.flatMap (escape []))

/-- The socket number after a colon, below 65536; it may be left out. -/
def socket? : List Char → Option (Option Nat)
  | [] => some none
  | [':'] => some none
  | ':' :: ds => ((number? 10 ds).filter (· < 65536)).map some
  | _ => none

/-- The authority without a user and password in front. -/
def withoutUser (authority : List Char) : List Char :=
  (authority.reverse.takeWhile (· != '@')).reverse

/-- The host in an authority without a user, the brackets with what they hold. -/
def hostPart : List Char → List Char
  | '[' :: cs => '[' :: cs.takeWhile (· != ']') ++ (cs.dropWhile (· != ']')).take 1
  | cs => cs.takeWhile (· != ':')

/-! ## Addresses -/

/-- An address from where its authority begins. An empty host has neither user nor socket. -/
def hosted? (scheme : List Char) (strict : Bool) (rest : List Char) : Option Address := do
  let ends := fun c => c = '/' || endsPath c || (strict && c = '\\')
  let authority := rest.takeWhile fun c => !ends c
  let rest := rest.dropWhile fun c => !ends c
  let place := withoutUser authority
  let host ← host? strict (hostPart place)
  let socket ← socket? (place.drop (hostPart place).length)
  if host.isEmpty && !authority.isEmpty then none
  else
    let bare := if strict then ['/'] else []
    let path :=
      match rest with
      | [] => bare
      | c :: cs => if endsPath c then bare else pathOf (segments strict cs)
    some {
      scheme
      host := some host
      socket := socket.filter fun n => hostSchemes.lookup scheme != some n
      path
      tail := tailOf strict (rest.dropWhile fun c => !endsPath c) }

/-- A letter and a colon or a bar: a drive, which is no host. -/
def isDrive : List Char → Bool
  | [c, d] => c.isAlpha && (d = ':' || d = '|')
  | _ => false

/-- The address of a file, from where the scheme ends. The own machine needs no name. -/
def file? (rest : List Char) : Option Address := do
  let (host, rest) ← match rest with
    | a :: b :: cs =>
      if isSlash a && isSlash b then
        let host := cs.takeWhile fun c => !(isSlash c || endsPath c)
        if host.isEmpty || isDrive host then some ([], cs)
        else do
          let name ← host? true host
          some (if name = "localhost".toList then [] else name, cs.drop host.length)
      else some ([], rest)
    | _ => some ([], rest)
  let path := segments true (if rest.head?.any isSlash then rest.drop 1 else rest)
  some {
    scheme := fileScheme
    host := some host
    path := pathOf (path.dropLast.dropWhile (·.isEmpty) ++ path.getLast?.toList)
    tail := tailOf true (rest.dropWhile fun c => !endsPath c) }

/-- The address that a text spells, if it spells one. -/
def parse? (url : String) : Option Address := do
  let (scheme, rest) ← split? url.toList
  if (hostSchemes.lookup scheme).isSome then hosted? scheme true (rest.dropWhile isSlash)
  else if scheme = fileScheme then file? rest
  else
    match rest with
    | '/' :: '/' :: cs => hosted? scheme false cs
    | cs =>
      let path :=
        match cs with
        | '/' :: cs => pathOf (segments false cs)
        | cs => (cs.takeWhile fun c => !endsPath c).flatMap (escape [])
      some { scheme, path, tail := tailOf false (cs.dropWhile fun c => !endsPath c) }

/-- The text of an address, with each part that it has. -/
def spelling (a : Address) : String :=
  let authority :=
    match a.host with
    | none => []
    | some h =>
      "//".toList ++ h ++ match a.socket with
        | none => []
        | some n => ':' :: (toString n).toList
  String.ofList (a.scheme ++ ':' :: authority ++ a.path ++ a.tail)

/-- The address has a host that is not empty. -/
def namesHost (a : Address) : Bool := a.host.any fun h => !h.isEmpty

/-- The address is on the web, and its host can stand in a request. -/
def isRequestable (a : Address) : Bool :=
  webSchemes.contains a.scheme
    && !a.host.any (·.any fun c => "\"\x60\x7b\x7d".toList.contains c)

/-- Why no request can be built for an address. -/
inductive Fault where
  /-- It is no address. -/
  | malformed
  /-- It names no host. -/
  | hostless (url : String)
  /-- It names a host to which no request goes. -/
  | unreachable (url : String)
  deriving DecidableEq, Repr, Inhabited

/-- Why no request can be built for an address, if none can. -/
def fault? (url : String) : Option Fault :=
  match parse? url with
  | none => some .malformed
  | some a =>
    if !a.namesHost then some (.hostless a.spelling)
    else if a.isRequestable then none
    else some (.unreachable a.spelling)

theorem scheme_of_fault?_eq_none {url : String} (h : fault? url = none) :
    ∃ a, parse? url = some a ∧ a.namesHost = true ∧ a.scheme ∈ webSchemes := by
  unfold fault? at h
  split at h
  · exact absurd h (by simp)
  · next a ha =>
    refine ⟨a, ha, ?_⟩
    split at h
    · exact absurd h (by simp)
    · next hn =>
      split at h
      · next hr =>
        simp only [isRequestable, Bool.and_eq_true, List.contains_iff_mem] at hr
        exact ⟨by simpa using hn, hr.1⟩
      · exact absurd h (by simp)

end Address

end GradeRelay
