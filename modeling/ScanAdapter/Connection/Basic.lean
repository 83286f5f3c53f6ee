import ScanAdapter.Connection.Url
import ScanAdapter.Number.Reading
import ScanAdapter.Json.Value

/-!
# Connections

How the server is reached, as a URL says it: over the network, over an encrypted connection, or through
a socket of the same machine, with the options that the URL gives. The parameters of the URL's query are
options too; what the authority says of user, password and host counts before the query.

| here | there |
| --- | --- |
| `Connection.ofUrl` | `create_redis_client`, by `from_url` |
-/
namespace ScanAdapter.Connection

/-! ## Flags for the check of a certificate

A URL names the flags that the check of a certificate is to heed or not. A flag is looked up as a property of the
class of flags, so the other properties of that class pass for flags too: those that every class of flags has, those
of whole numbers, and those by which the class keeps its members. -/

/-- The flags proper. -/
def verifyFlags : List String :=
  ["VERIFY_ALLOW_PROXY_CERTS", "VERIFY_CRL_CHECK_CHAIN", "VERIFY_CRL_CHECK_LEAF", "VERIFY_DEFAULT",
    "VERIFY_X509_PARTIAL_CHAIN", "VERIFY_X509_STRICT", "VERIFY_X509_TRUSTED_FIRST"]

/-- The properties that a class of flags shares with whole numbers. -/
def numberProperties : List String :=
  ["as_integer_ratio", "bit_count", "bit_length", "conjugate", "denominator", "from_bytes", "imag",
    "mro", "numerator", "real", "to_bytes"]

/-- The properties by which a class of flags keeps its members. -/
def memberProperties : List String :=
  ["_all_bits_", "_boundary_", "_check_for_existing_members_", "_convert_", "_create_", "_find_data_repr_",
    "_find_data_type_", "_find_new_", "_flag_mask_", "_generate_next_value_", "_get_mixins_", "_get_value",
    "_inverted_", "_iter_member_", "_iter_member_by_def_", "_iter_member_by_value_", "_member_map_",
    "_member_names_", "_member_type_", "_missing_", "_new_member_", "_numeric_repr_", "_singles_mask_",
    "_unhashable_values_", "_use_args_", "_value2member_map_", "_value_repr_"]

/-- The properties that are common to classes of whole numbers. -/
def classProperties : List String :=
  ["__abs__", "__add__", "__and__", "__annotations__", "__base__", "__bases__", "__basicsize__",
    "__bool__", "__call__", "__ceil__", "__class__", "__contains__", "__copy__", "__deepcopy__",
    "__delattr__", "__dict__", "__dictoffset__", "__dir__", "__divmod__", "__doc__", "__eq__",
    "__flags__", "__float__", "__floor__", "__floordiv__", "__format__", "__ge__", "__getattr__",
    "__getattribute__", "__getitem__", "__getnewargs__", "__getstate__", "__gt__", "__hash__",
    "__index__", "__init__", "__init_subclass__", "__instancecheck__", "__int__", "__invert__",
    "__itemsize__", "__iter__", "__le__", "__len__", "__lshift__", "__lt__", "__members__",
    "__mod__", "__module__", "__mro__", "__mul__", "__name__", "__ne__", "__neg__", "__new__",
    "__or__", "__pos__", "__pow__", "__prepare__", "__qualname__", "__radd__", "__rand__",
    "__rdivmod__", "__reduce__", "__reduce_ex__", "__repr__", "__reversed__", "__rfloordiv__",
    "__rlshift__", "__rmod__", "__rmul__", "__ror__", "__round__", "__rpow__", "__rrshift__",
    "__rshift__", "__rsub__", "__rtruediv__", "__rxor__", "__setattr__", "__sizeof__", "__str__",
    "__sub__", "__subclasscheck__", "__subclasses__", "__subclasshook__", "__text_signature__",
    "__truediv__", "__trunc__", "__weakref__", "__weakrefoffset__", "__xor__"]

/-- Whether a name passes for a flag. -/
def isVerifyFlag (name : String) : Bool :=
  verifyFlags.contains name || numberProperties.contains name || memberProperties.contains name ||
    classProperties.contains name

end ScanAdapter.Connection

namespace ScanAdapter

/-! ## Connections -/

inductive Transport
  | network
  | encrypted
  | localSocket
  deriving DecidableEq, Repr

structure Connection where
  transport : Transport
  /-- The options that are given, by name. -/
  options : Members
  deriving Repr

namespace Connection

/-- The value of an option, null when it is not given. -/
def option (c : Connection) (name : String) : Json := (Entries.get? name c.options).getD .null

/-! ## Parameters -/

/-- The options that are integers. -/
def integralOptions : List String :=
  ["db", "protocol", "socket_read_size", "max_connections", "health_check_interval", "ssl_min_version"]

/-- The options that are numbers. -/
def numericOptions : List String := ["socket_timeout", "socket_connect_timeout", "timeout"]

/-- The options that are lists of flags. -/
def flagOptions : List String := ["ssl_include_verify_flags", "ssl_exclude_verify_flags"]

/-- Flags between commas. Brackets and blanks around them do not count. -/
def areFlags (value : String) : Bool :=
  (Text.splitAt ',' (value.toList.filter fun c => c != '[' && c != ']')).all fun flag =>
    isVerifyFlag (String.ofList (Text.trim Text.isSpace flag))

/-- A parameter as an option: integral ones are read as such, numbers and flags must be well formed. -/
def parameterOption (name value : String) : Except UrlFault Json :=
  if integralOptions.contains name then
    match Number.plainInt? value with
    | some n => .ok (.int n)
    | none => .error (.badOption name)
  else if numericOptions.contains name && (Number.plainFloat? value).isNone then .error (.badOption name)
  else if flagOptions.contains name && !areFlags value then .error (.badOption name)
  else .ok (.string value)

/-- The options of a query; of parameters with one name the first counts. -/
def queryOptions (given : Members) : List (String × String) → Except UrlFault Members
  | [] => .ok given
  | (name, value) :: rest =>
    if (Entries.get? name given).isSome then queryOptions given rest
    else
      match parameterOption name value with
      | .ok v => queryOptions (given ++ [(name, v)]) rest
      | .error fault => .error fault

/-! ## Parts of the URL -/

/-- Set an option to a part of the URL, unless the part is empty. -/
def withPart (name : String) (part : List Char) (options : Members) : Members :=
  if part.isEmpty then options
  else Entries.put name (.string (String.ofList (Text.percentDecode part))) options

def withUser (u : Url) (options : Members) : Members :=
  match u.user with
  | none => options
  | some (name, password) =>
    withPart "password" (password.getD []) (withPart "username" name options)

/-- A path that is a number names the database, unless the query does. -/
def withDatabase (u : Url) (options : Members) : Members :=
  if (Entries.get? "db" options).isSome then options
  else
    let number := (Text.percentDecode u.path).filter (· != '/')
    match Number.plainInt? (String.ofList number) with
    | some n => Entries.put "db" (.int n) options
    | none => options

/-- The host, the number behind it unless that is zero, and the database. -/
def withHost (u : Url) (options : Members) : Except UrlFault Members :=
  match u.portNumber with
  | .error fault => .error fault
  | .ok number =>
    let options := withPart "host" u.host options
    let options := match number with
      | some (n + 1) => Entries.put "port" (.nat (n + 1)) options
      | _ => options
    .ok (withDatabase u options)

/-! ## The whole -/

/-- The transport that a scheme asks for. -/
def transport? (scheme : List Char) : Option Transport :=
  if scheme = "redis".toList then some .network
  else if scheme = "rediss".toList then some .encrypted
  else if scheme = "unix".toList then some .localSocket
  else none

/-- Replies are decoded as text unless the URL says otherwise. -/
def defaults : Members := [("decode_responses", .bool true)]

def merge (options more : Members) : Members := more.foldl (fun ms m => Entries.put m.1 m.2 ms) options

def isGiven (name : String) (options : Members) : Bool := (Entries.get? name options).isSome

def isNegative (name : String) (options : Members) : Bool :=
  match Entries.get? name options with
  | some (.number (.int n)) => n < 0
  | _ => false

/-- Why no connections can be made with the options: one has the name by which the pool of connections calls
itself, the number of connections kept is negative, or a plan for notices of maintenance or a kind of
transport is given, which a text cannot be. A scheme that asks for its own transport is heard before the
options. -/
def poolFault? (transport : Transport) (options : Members) : Option UrlFault :=
  if isGiven "self" options then some .takenName
  else if isNegative "max_connections" options then some .badPoolSize
  else if isGiven "maint_notifications_config" options then some .noticesAsText
  else if transport = .network && isGiven "connection_class" options then some .transportAsText
  else none

/-- The connection that a URL asks for. Its query is read before its scheme is looked at. -/
def ofUrl (url : String) : Except UrlFault Connection := do
  let u ← Url.ofText url
  let options ← queryOptions [] u.parameters
  let options := withUser u options
  let some transport := u.scheme.bind transport? | .error .badScheme
  let options ← match transport with
    | .localSocket => .ok (withPart "path" u.path options)
    | _ => withHost u options
  let options := merge defaults options
  match poolFault? transport options with
  | some fault => .error fault
  | none => .ok ⟨transport, options⟩

end Connection

end ScanAdapter
