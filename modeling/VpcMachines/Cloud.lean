import VpcMachines.Instance
import VpcMachines.Listing.Page
import VpcMachines.Pool.Basic
import VpcMachines.Program
import VpcMachines.Secret.Basic

/-!
# The collaborators of the orchestrator

The calls to the cloud, and those to what is at hand: the store of secrets and the lookup of the
account. Nothing checks that an answer has the type that is declared for its call. Where load balancers are
concerned, the types of the answers are left open; usually they are the declared ones, with one value
more: instead of a record, or of a list of members, there may be none.
-/

namespace VpcMachines

inductive CloudCall where
  | listInstances (name start : Option String)
  | createInstance (prototype : Prototype)
  | getInstance (id : String)
  | deleteInstance (id : String)
  | listImages (start : Option String)
  | listKeys (start : Option String)
  | getSubnetByName (name : String)
  | getSecurityGroupByName (name : String)
  | getSecurityGroup (id : String)
  | getLoadBalancer (id : String)
  | listPoolMembers (loadBalancer pool : String)
  | createPoolMember (loadBalancer pool address : String) (port : Int)
  | deletePoolMember (loadBalancer pool member : String)
  deriving DecidableEq, Repr

/-- The types of the answers about load balancers and the members of their pools. -/
structure AnswerTypes where
  Balancer : Type
  Roster : Type
  Member : Type

/-- The declared types, with none beside their values. -/
abbrev AnswerTypes.usual : AnswerTypes where
  Balancer := Option LoadBalancer
  Roster := Option (List PoolMember)
  Member := Option PoolMember

namespace CloudCall

/-- What a call is answered with, in the types given. -/
abbrev ReplyIn (T : AnswerTypes) : CloudCall → Type
  | listInstances _ _ => Page Instance
  | createInstance _ => Option Instance
  | getInstance _ => Option Instance
  | deleteInstance _ => Unit
  | listImages _ => Page NamedResource
  | listKeys _ => Page NamedResource
  | getSubnetByName _ => Option NamedResource
  | getSecurityGroupByName _ => Option NamedResource
  | getSecurityGroup _ => Option NamedResource
  | getLoadBalancer _ => T.Balancer
  | listPoolMembers _ _ => T.Roster
  | createPoolMember _ _ _ _ => T.Member
  | deletePoolMember _ _ _ => Unit

/-- What a call is usually answered with: a value of its declared type, or none instead of a record or of a
list of members. Only the lookups by name are declared to be answered with none. -/
abbrev Reply : CloudCall → Type := ReplyIn .usual

/-- Calls that change something in the cloud. -/
def isMutating : CloudCall → Bool
  | createInstance _ => true
  | deleteInstance _ => true
  | createPoolMember _ _ _ _ => true
  | deletePoolMember _ _ _ => true
  | _ => false

end CloudCall

/-- The cloud, answering in the types given. -/
def CloudIn (T : AnswerTypes) : Interface := ⟨CloudCall, CloudCall.ReplyIn T⟩

/-- The cloud. -/
def Cloud : Interface := ⟨CloudCall, CloudCall.Reply⟩

inductive LocalCall where
  | secret (space name : String)
  | dataKey
  | account
  deriving DecidableEq, Repr

abbrev LocalCall.Reply : LocalCall → Type
  | secret _ _ => Secret
  | dataKey => String
  | account => Option String

/-- The store of secrets and the lookup of the account. -/
def Local : Interface := ⟨LocalCall, LocalCall.Reply⟩

namespace Cloud

def listInstances (name start : Option String) : Program Cloud (Page Instance) :=
  Program.request (I := Cloud) (.listInstances name start)

def createInstance (prototype : Prototype) : Program Cloud (Option Instance) :=
  Program.request (I := Cloud) (.createInstance prototype)

def getInstance (id : String) : Program Cloud (Option Instance) :=
  Program.request (I := Cloud) (.getInstance id)

def deleteInstance (id : String) : Program Cloud Unit :=
  Program.request (I := Cloud) (.deleteInstance id)

def listImages (start : Option String) : Program Cloud (Page NamedResource) :=
  Program.request (I := Cloud) (.listImages start)

def listKeys (start : Option String) : Program Cloud (Page NamedResource) :=
  Program.request (I := Cloud) (.listKeys start)

def getSubnetByName (name : String) : Program Cloud (Option NamedResource) :=
  Program.request (I := Cloud) (.getSubnetByName name)

def getSecurityGroupByName (name : String) : Program Cloud (Option NamedResource) :=
  Program.request (I := Cloud) (.getSecurityGroupByName name)

def getSecurityGroup (id : String) : Program Cloud (Option NamedResource) :=
  Program.request (I := Cloud) (.getSecurityGroup id)

def getLoadBalancer (id : String) : Program Cloud (Option LoadBalancer) :=
  Program.request (I := Cloud) (.getLoadBalancer id)

def listPoolMembers (loadBalancer pool : String) : Program Cloud (Option (List PoolMember)) :=
  Program.request (I := Cloud) (.listPoolMembers loadBalancer pool)

def createPoolMember (loadBalancer pool address : String) (port : Int) :
    Program Cloud (Option PoolMember) :=
  Program.request (I := Cloud) (.createPoolMember loadBalancer pool address port)

def deletePoolMember (loadBalancer pool member : String) : Program Cloud Unit :=
  Program.request (I := Cloud) (.deletePoolMember loadBalancer pool member)

end Cloud

end VpcMachines
