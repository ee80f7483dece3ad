import VpcMachines.Listing.Walk
import VpcMachines.Rest.Record

/-!
# The cloud over HTTP

Each call to the cloud as a program that sends requests to its REST interface. A request that cannot
be carried, and a reply with an error status, are faults of the orchestrator's family; a reply that
cannot be read is not.
-/

namespace VpcMachines.Rest

inductive Method where
  | get
  | post
  | delete
  deriving DecidableEq, Repr

def Method.text : Method → String
  | get => "GET"
  | post => "POST"
  | delete => "DELETE"

structure Request where
  method : Method
  url : String
  headers : List (String × String)
  query : List (String × Json)
  body : Option Json
  timeout : Int

structure Reply where
  status : Int
  body : String

/-- The carrier of requests. -/
def Http : Interface := ⟨Request, fun _ ↦ Reply⟩

/-- What every request needs: the settings, a token, the address of the interface, a timeout. -/
structure Connection where
  settings : Settings
  token : String
  endpoint : String
  timeout : Int

namespace Connection

/-- A connection; the token may come from the environment, and the address from the region. -/
def make (settings : Settings) (token fromEnvironment endpoint : Option String)
    (timeout : Option Int) : Connection :=
  let usual := s!"https://{settings.region}.iaas.cloud.ibm.com/v1"
  let address := ((filled endpoint).getD usual).toList
  { settings := settings
    token := (filled token).getD (fromEnvironment.getD "")
    endpoint := String.ofList (address.reverse.dropWhile (· == '/')).reverse
    timeout := timeout.getD 30 }

def request (c : Connection) (method : Method) (path : String) (filters : List (String × Option String))
    (body : Option Json) : Request where
  method := method
  url := c.endpoint ++ path
  headers := [("Authorization", s!"Bearer {c.token}"), ("Accept", "application/json")]
  query := [("version", .text c.settings.apiVersion), ("generation", .int 2)] ++
    filters.filterMap fun (name, value) ↦ value.map fun s ↦ (name, .text s)
  body := body
  timeout := c.timeout

end Connection

/-- What a reply says. An error status is a fault; a reply without content is the empty object. -/
def content (described : String) (reply : Reply) : Reading Json :=
  if 400 ≤ reply.status then .error (.refused described reply.status reply.body)
  else if reply.status = 204 ∨ reply.body = "" then .ok (.object [])
  else
    match Json.read reply.body.toList with
    | .ok v => .ok v
    | .error failure => .error (.malformedReply reply.body failure)

/-- A fault of the carrier. -/
def transportFault (described : String) (f : Fault) : Fault :=
  if f.category.isTransport then .transportFailed described f else f

/-- Sends a request and reads the reply. -/
def exchange (c : Connection) (method : Method) (path : String)
    (filters : List (String × Option String)) (body : Option Json) : Program Http Json :=
  if c.token = "" then .fail .noToken
  else do
    let described := s!"{method.text} {path}"
    let reply ← (Program.request (I := Http) (c.request method path filters body)).mapFault
      (transportFault described)
    Program.ofExcept (content described reply)

def fetch (c : Connection) (path : String) (filters : List (String × Option String)) :
    Program Http Json :=
  exchange c .get path filters none

/-- Fetches a page of a listing of named resources. -/
def namedPage (c : Connection) (name : String) (start : Option String) :
    Program Http (Page NamedResource) := do
  let v ← fetch c s!"/{name}" [("start", start)]
  Program.ofExcept (page named name v)

/-- Carries out a call. `pages` bounds the pages that a lookup by name reads. -/
def serve (c : Connection) (pages : Nat) : (call : CloudCall) → Program Http call.Reply
  | .listInstances name start => do
    let v ← fetch c "/instances" [("name", name), ("start", start)]
    Program.ofExcept (page observedInstance "instances" v)
  | .createInstance prototype => do
    let v ← exchange c .post "/instances" [] (some (instanceBody prototype))
    let _ ← Program.ofExcept (get "id" v)
    some <$> Program.ofExcept (observedInstance v)
  | .getInstance id => do
    let v ← fetch c s!"/instances/{id}" []
    some <$> Program.ofExcept (observedInstance v)
  | .deleteInstance id => do
    let _ ← exchange c .delete s!"/instances/{id}" [] none
    return ()
  | .listImages start => namedPage c "images" start
  | .listKeys start => namedPage c "keys" start
  | .getSubnetByName name => findNamed (namedPage c "subnets") name pages
  | .getSecurityGroupByName name => findNamed (namedPage c "security_groups") name pages
  | .getSecurityGroup id => do
    let v ← fetch c s!"/security_groups/{id}" []
    some <$> Program.ofExcept (named v)
  | .getLoadBalancer id => do
    let v ← fetch c s!"/load_balancers/{id}" []
    some <$> Program.ofExcept (loadBalancer v)
  | .listPoolMembers loadBalancer pool => do
    let v ← fetch c s!"/load_balancers/{loadBalancer}/pools/{pool}/members" []
    some <$> Program.ofExcept (collection member "members" v)
  | .createPoolMember loadBalancer pool address port => do
    let body := Json.object [("port", .int port), ("target", .object [("address", .text address)])]
    let v ← exchange c .post s!"/load_balancers/{loadBalancer}/pools/{pool}/members" [] (some body)
    some <$> Program.ofExcept (member v)
  | .deletePoolMember loadBalancer pool member => do
    let path := s!"/load_balancers/{loadBalancer}/pools/{pool}/members/{member}"
    let _ ← exchange c .delete path [] none
    return ()

/-- A program over the cloud as one over HTTP. -/
def overHttp {α : Type} (c : Connection) (pages : Nat) (p : Program Cloud α) : Program Http α :=
  p.interpret (serve c pages)

/-- Carries out a call to the cloud, and hands on one to what is at hand. -/
def serveBeside (c : Connection) (pages : Nat) :
    (call : (Cloud.sum Local).Call) → Program (Http.sum Local) ((Cloud.sum Local).Reply call)
  | .inl call => (serve c pages call).beside
  | .inr call => .call (I := Http.sum Local) (.inr call) Program.ofExcept

/-- The same as `overHttp` for a program that also calls what is at hand. -/
def overHttpBeside {α : Type} (c : Connection) (pages : Nat) (p : Program (Cloud.sum Local) α) :
    Program (Http.sum Local) α :=
  p.interpret (serveBeside c pages)

end VpcMachines.Rest
