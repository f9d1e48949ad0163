/-
Media types: a type, a subtype, and parameters after semicolons. What is
asked here is whether a text names JSON: a subtype `json`, or one that
ends in `+json`, of the type `application`, in any case.
-/
namespace TenantGate.Http.MediaType

/-- The characters of names and of values without quotes. -/
def isToken (c : Char) : Bool := c.isAlphanum || "!#$%&'*+-.^_`|~".toList.contains c

/-- The characters of values between quotes. -/
def isQuoted (c : Char) : Bool := 31 < c.toNat && c.toNat ≠ 127

/-- Where in the parameters a reader stands. -/
inductive State where
  /-- Before a name. -/
  | before
  /-- Inside a name. -/
  | name
  /-- Before a value. -/
  | equals
  /-- Inside a value without quotes. -/
  | value
  /-- Right after an opening quote. -/
  | opened
  /-- Inside a value between quotes. -/
  | quoted
  /-- After a closing quote. -/
  | closed
deriving DecidableEq, Inhabited

/-- One character of the parameters. -/
def State.step (st : State) (c : Char) : Option State :=
  match st with
  | .before => if c = ' ' then some .before else if isToken c then some .name else none
  | .name => if c = '=' then some .equals else if isToken c then some .name else none
  | .equals => if c = '"' then some .opened else if isToken c then some .value else none
  | .value => if c = ';' then some .before else if isToken c then some .value else none
  | .opened => if isQuoted c then some .quoted else none
  | .quoted => if c = '"' then some .closed else if isQuoted c then some .quoted else none
  | .closed => if c = ';' then some .before else if c = ' ' then some .closed else none

/-- Are these parameters, from `start` on? After a semicolon there may be
nothing. -/
def State.accepts : State → (fresh : Bool) → List Char → Bool
  | st, fresh, [] =>
      match st with
      | .before => fresh
      | .equals | .value | .closed => true
      | .name | .opened | .quoted => false
  | st, _, c :: cs =>
      match st.step c with
      | some next => next.accepts (c = ';') cs
      | none => false

/-- The parts of a subtype before and after its last plus sign, which does
not count in front. -/
def splitSuffix (sub : List Char) : List Char × Option (List Char) :=
  let suffix := sub.reverse.takeWhile (· ≠ '+') |>.reverse
  let head := sub.take (sub.length - suffix.length - 1)
  if head.isEmpty then (sub, none) else (head, some suffix)

/-- Does a text name JSON? -/
def isJson (s : String) : Bool :=
  let cs := s.toList.map Char.toLower
  let top := cs.takeWhile (· ≠ '/')
  let rest := (cs.dropWhile (· ≠ '/')).drop 1
  let sub := rest.takeWhile (· ≠ ';')
  let (head, suffix) := splitSuffix sub
  top = "application".toList
    && sub.all isToken && !sub.isEmpty
    && (head = "json".toList || suffix = some "json".toList)
    && match rest.dropWhile (· ≠ ';') with
      | _ :: parameters => State.before.accepts true parameters
      | [] => true

end TenantGate.Http.MediaType
