import VpcMachines.Json.Reader
import VpcMachines.Json.Shape
import VpcMachines.Link.Query
import VpcMachines.Reference.Basic
import VpcMachines.Settings.Basic
import VpcMachines.Text.Base64
import VpcMachines.Yaml.Fault

/-!
# Faults

Everything that can go wrong, as causes. A fault belongs to the orchestrator's own family, or it is a
foreign one that a collaborator reported or that reading its answer brought about. Calls to
collaborators let faults of the family pass and wrap foreign ones, so that the family covers whatever
happens during a call.
-/

namespace VpcMachines

open Text

/-- Kinds of faults, as far as callers tell them apart. -/
inductive Category where
  | cluster
  | invalidSpec
  | invalidReference
  | notFound
  | bootstrap
  | notActive
  | noPool
  | configuration
  | provider
  | value
  | key
  | type
  | noMember
  | index
  | overflow
  | runtime
  | recursion
  | lookup
  | operatingSystem
  | fileMissing
  | isDirectory
  | notDirectory
  | unimplemented
  | unicode
  | unencodable
  | json
  | validation
  | yaml
  | base64
  | connection
  | timeout
  | http
  | request
  | redirects
  /-- The end of an iteration, inside the orchestrator's family or outside. -/
  | stop (own : Bool)
  /-- Any other kind by its name, inside the orchestrator's family or outside. -/
  | other (own : Bool) (name : String)
  deriving DecidableEq, Repr

namespace Category

/-- The orchestrator's own family. -/
def isOwn : Category → Bool
  | cluster | invalidSpec | invalidReference | notFound | bootstrap | notActive | noPool
  | configuration | provider => true
  | stop own => own
  | other own _ => own
  | _ => false

/-- Failures to carry a request to the cloud and its reply back. -/
def isTransport : Category → Bool
  | connection | timeout | http | request | redirects => true
  | _ => false

/-- The end of an iteration. -/
def isStop : Category → Bool
  | stop _ => true
  | _ => false

/-- Faults of a value that was read. -/
def isValue : Category → Bool
  | value | unicode | unencodable | json | validation | base64 => true
  | _ => false

end Category

inductive Fault where
  | noProfile (machine : String)
  | emptyReference (kind : ResourceKind)
  | notFound (kind name : String)
  | noBootstrapSecret (machine : String)
  | bootstrapUnreadable (space name : String) (cause : Fault)
  | noBootstrapData (space name key : String)
  | notActive (loadBalancer : String) (status : Option String)
  | noPools (loadBalancer : String)
  | layoutRetired (layout : ProviderIdLayout)
  | noAccount
  /-- A call to a collaborator failed for a foreign cause. -/
  | callFailed (description : String) (cause : Fault)
  | cursorRepeated (cursor : String)
  /-- The end of an iteration inside a walk, which would pass for the end of the walk. -/
  | walkStopped (cause : Fault)
  | noToken
  | transportFailed (request : String) (cause : Fault)
  /-- The cloud answered a request with an error status. -/
  | refused (request : String) (status : Int) (body : String)
  | portOutOfRange (port : Int)
  | malformedReply (body : String) (failure : Json.Failure)
  | misshapen (shape : Misshape)
  | link (fault : Link.HostFault)
  | invalid (model : String) (issues : List Schema.Issue)
  | secretMissing (space name : String)
  | secretMalformed (path : String)
  | secretWithoutData (path : String)
  | secretNotBase64 (path key : String) (cause : Base64.Fault)
  | secretNotAscii
  | base64 (fault : Base64.Fault)
  | yaml (fault : Yaml.Fault)
  | undecodable (fault : Utf8.Fault)
  | unencodable (fault : Utf8.Unencodable)
  | fileMissing (path : String)
  | isDirectory (path : String)
  | notDirectory (path : String)
  | pathUnencodable (path : String)
  | nullInPath
  | nameTooLong (path : String)
  | unimplemented
  /-- What a collaborator reported in its own words. -/
  | reported (category : Category) (text : String)
  | reportedProvider (text : String) (status : Option Int)
  deriving DecidableEq, Repr

namespace Fault

def message : Fault → String
  | noProfile machine => s!"machine {machine} has no profile"
  | emptyReference kind => s!"{kind.text} reference has neither id nor name"
  | notFound kind name => s!"{kind} '{name}' not found"
  | noBootstrapSecret machine => s!"machine {machine} has no bootstrap data secret"
  | bootstrapUnreadable space name cause =>
    s!"failed to retrieve bootstrap data secret {space}/{name}: {cause.message}"
  | noBootstrapData space name key =>
    s!"bootstrap data secret {space}/{name} has no '{key}' key"
  | notActive loadBalancer status =>
    let status := status.getD "None"
    s!"load balancer {loadBalancer} is not active (status={status})"
  | noPools loadBalancer => s!"load balancer {loadBalancer} has no pools"
  | layoutRetired layout => s!"invalid value for provider ID format: {layout.text}"
  | noAccount => "no account ID available for provider ID"
  | callFailed description cause => s!"{description}: {cause.message}"
  | cursorRepeated cursor => s!"pagination cursor {cursor} repeated"
  | walkStopped _ => "generator raised StopIteration"
  | noToken => "IBM Cloud VPC not configured. Set IBMCLOUD_IAM_TOKEN."
  | transportFailed request cause => s!"VPC API {request}: {cause.message}"
  | refused request status body => s!"VPC API {request}: {status} {kept body}"
  | portOutOfRange port => s!"member port must be between 1 and 65535, got {port}"
  | malformedReply body failure => failure.message body.toList
  | misshapen shape => shape.message
  | link fault => fault.message
  | invalid _ _ => "<ValidationError>"
  | secretMissing space name => quote s!"secret {space}/{name} not found"
  | secretMalformed path => s!"secret {path} is not valid YAML: <YAMLError>"
  | secretWithoutData path => s!"secret {path} has no 'data' mapping"
  | secretNotBase64 path key _ => s!"secret {path} key '{key}' is not valid base64"
  | secretNotAscii => "string argument should contain only ASCII characters"
  | base64 _ => ""
  | yaml fault => fault.message
  | undecodable fault => fault.message
  | unencodable fault => fault.message
  | fileMissing path => s!"[Errno 2] No such file or directory: {quote path}"
  | isDirectory path => s!"[Errno 21] Is a directory: {quote path}"
  | notDirectory path => s!"[Errno 20] Not a directory: {quote path}"
  | pathUnencodable path =>
    let found := Utf8.unencodableFrom Half.isByte 0 [] (letters path.toList)
    (found.map Utf8.Unencodable.message).getD ""
  | nullInPath => "embedded null byte"
  | nameTooLong path => s!"[Errno 36] File name too long: {quote path}"
  | unimplemented => ""
  | reported category text => if category = .key then quote text else text
  | reportedProvider text _ => text

/-- The category of a fault in a YAML document. -/
def yamlCategory : Yaml.Fault → Category
  | .malformed => .yaml
  | .codePoint => .value
  | .codeTooLarge => .overflow
  | .notBoolean _ => .key
  | .emptyNumber => .index
  | .notInteger _ _ => .value
  | .tooManyDigits _ => .value
  | .notNumber _ => .value
  | .weightTooLarge => .overflow
  | .notTimestamp => .noMember
  | .notPlainText => .type
  | .tooDeep => .recursion
  | .tooDeepToWrite => .recursion
  | .unwritable => .value
  | .calendar _ => .value

def shapeCategory : Misshape → Category
  | .noMember _ _ => .noMember
  | .noKey _ => .key
  | _ => .type

def category : Fault → Category
  | noProfile _ => .invalidSpec
  | emptyReference _ => .invalidReference
  | notFound _ _ => .notFound
  | noBootstrapSecret _ => .bootstrap
  | bootstrapUnreadable _ _ _ => .bootstrap
  | noBootstrapData _ _ _ => .bootstrap
  | notActive _ _ => .notActive
  | noPools _ => .noPool
  | layoutRetired _ => .configuration
  | noAccount => .configuration
  | callFailed _ _ => .provider
  | cursorRepeated _ => .provider
  | walkStopped _ => .runtime
  | noToken => .provider
  | transportFailed _ _ => .provider
  | refused _ _ _ => .provider
  | portOutOfRange _ => .value
  | malformedReply _ failure =>
    match failure with
    | .malformed _ _ => .json
    | .tooManyDigits _ => .value
    | .arrayTooDeep => .recursion
    | .objectTooDeep => .recursion
  | misshapen shape => shapeCategory shape
  | link _ => .value
  | invalid _ _ => .validation
  | secretMissing _ _ => .key
  | secretMalformed _ => .value
  | secretWithoutData _ => .value
  | secretNotBase64 _ _ _ => .value
  | secretNotAscii => .value
  | base64 _ => .base64
  | yaml fault => yamlCategory fault
  | undecodable _ => .unicode
  | unencodable _ => .unencodable
  | fileMissing _ => .fileMissing
  | isDirectory _ => .isDirectory
  | notDirectory _ => .notDirectory
  | pathUnencodable _ => .unencodable
  | nullInPath => .value
  | nameTooLong _ => .operatingSystem
  | unimplemented => .unimplemented
  | reported category _ => category
  | reportedProvider _ _ => .provider

/-- The fault that brought this one about. -/
def cause? : Fault → Option Fault
  | bootstrapUnreadable _ _ cause => some cause
  | callFailed _ cause => some cause
  | walkStopped cause => some cause
  | transportFailed _ cause => some cause
  | secretMalformed _ => some (yaml .malformed)
  | secretNotBase64 _ _ cause => some (base64 cause)
  | _ => none

/-- The status with which the cloud refused a request. -/
def status? : Fault → Option Int
  | refused _ status _ => some status
  | reportedProvider _ status => status
  | _ => none

def isOwn (f : Fault) : Bool := f.category.isOwn

/-- Faults of a file's content as they are looked for: those of a value, and those of the language. -/
def isOfContent (f : Fault) : Bool := f.category.isValue || f.category == .yaml

/-- A fault as it leaves a call to a collaborator. -/
def inCall (description : String) (f : Fault) : Fault :=
  if f.isOwn then f else .callFailed description f

/-- A fault as it leaves a walk. -/
def inWalk (f : Fault) : Fault := if f.category.isStop then .walkStopped f else f

end Fault

end VpcMachines
