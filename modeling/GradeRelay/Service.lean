import GradeRelay.Address
/-!
# The records service

A notice goes to one of two resources of the records service, whose address is the base address
followed by the resource's path. A delivery that fails is not repeated on the spot.

* `Resource.ofTag?_tag`: a resource is found by its name.
-/

namespace GradeRelay

/-- The resource that a notice is delivered to. -/
inductive Resource where
  | attempts
  | activities
  deriving DecidableEq, Repr, Inhabited

namespace Resource

/-- The name of a resource. -/
def tag : Resource → String
  | .attempts => "quizattempts"
  | .activities => "completeactivities"

/-- The resource of a name. -/
def ofTag? (t : String) : Option Resource :=
  if t = "quizattempts" then some .attempts
  else if t = "completeactivities" then some .activities
  else none

/-- The path of a resource below the base address. -/
def path (r : Resource) : String := r.tag ++ "/"

/-- The address of a resource: the base address, closed by a slash, and the resource's path. -/
def url (r : Resource) (baseUrl : String) : String :=
  if baseUrl.toList.getLast? = some '/' then baseUrl ++ r.path else baseUrl ++ "/" ++ r.path

@[simp]
theorem ofTag?_tag (r : Resource) : ofTag? r.tag = some r := by cases r <;> rfl

theorem tag_injective {r r' : Resource} (h : r.tag = r'.tag) : r = r' := by
  have hread := congrArg ofTag? h
  rw [ofTag?_tag, ofTag?_tag] at hread
  exact Option.some.inj hread

end Resource

/-- Why a delivery did not arrive. -/
inductive DeliveryFailure where
  | status (code : Nat) (message : String)
  | timeout
  | network (cause : String)
  deriving DecidableEq, Repr, Inhabited

/-- Why a delivery did not arrive, in words. -/
def DeliveryFailure.message : DeliveryFailure → String
  | .status code m => "records service returned " ++ toString code ++ ": " ++ m
  | .timeout => "delivery timed out"
  | .network cause => "network error: " ++ cause

/-- A token that can stand in a request header: tabs and visible characters only. -/
def isHeaderText (token : String) : Bool :=
  token.toList.all fun c => c = '\t' || (0x20 ≤ c.toNat && c.toNat != 0x7f)

/-- A request that could not be built, for an address if that much is known. -/
def unbuilt (url : Option String) : DeliveryFailure :=
  .network (match url with
    | none => "builder error"
    | some u => "builder error for url (" ++ u ++ ")")

/-- Why no request can be built for an address and a token. Whether the address names a host is
seen before the token, whether requests go to that host after it. -/
def requestFault? (url token : String) : Option DeliveryFailure :=
  match Address.fault? url with
  | some .malformed => some (unbuilt none)
  | some (.hostless u) => some (unbuilt (some u))
  | some (.unreachable u) => some (unbuilt (if isHeaderText token then some u else none))
  | none => if isHeaderText token then none else some (unbuilt none)

end GradeRelay
