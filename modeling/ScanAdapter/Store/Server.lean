import ScanAdapter.Store.Program
import ScanAdapter.Text.Utf8

/-!
# The server

Keys with their contents and times of expiry, under a clock of whole seconds. A key whose time has come
is still there at that second and gone after it. Every change of a key is kept, so that a client that
watches a key can tell whether it was changed; that a key expires is no change.
-/
namespace ScanAdapter

inductive Content
  | text (bytes : List UInt8)
  | list (items : List String)
  deriving DecidableEq, Repr

structure Entry where
  content : Content
  /-- The last second at which the key is there, if it is not there for ever. -/
  expiresAt : Option Int
  deriving DecidableEq, Repr

def Entry.isAliveAt (e : Entry) (now : Int) : Bool := e.expiresAt.all fun t => now ≤ t

structure Server where
  /-- The seconds since 1970. -/
  now : Int
  entries : List (String × Entry)
  /-- The keys that were changed, the last change first. -/
  changes : List String
  deriving DecidableEq, Repr

namespace Server

/-- A server without keys, on the first of May 2024 at half past twelve. -/
def empty : Server := ⟨1714566600, [], []⟩

/-- The entry of a key that is there. -/
def find? (s : Server) (key : String) : Option Entry :=
  (s.entries.lookup key).filter fun e => e.isAliveAt s.now

/-- How many changes of a key there have been. -/
def mark (s : Server) (key : String) : Nat := s.changes.count key

def put (s : Server) (key : String) (e : Entry) : Server :=
  { s with entries := (key, e) :: s.entries.filter (·.1 != key), changes := key :: s.changes }

def remove (s : Server) (key : String) : Server :=
  { s with entries := s.entries.filter (·.1 != key), changes := key :: s.changes }

theorem lookup_filter_ne {α : Type} (key other : String) (es : List (String × α)) (h : other ≠ key) :
    (es.filter (·.1 != key)).lookup other = es.lookup other := by
  induction es with
  | nil => rfl
  | cons e es ih =>
    obtain ⟨k, v⟩ := e
    by_cases hk : k = key
    · have ho : (other == key) = false := by simpa using h
      subst hk
      simp [List.lookup_cons, ho, ih]
    · simp [List.lookup_cons, hk, ih]

theorem find?_put_self (s : Server) (key : String) (e : Entry) :
    (s.put key e).find? key = if e.isAliveAt s.now then some e else none := by
  cases h : e.isAliveAt s.now <;> simp [find?, put, Option.filter, h]

theorem find?_put_of_ne (s : Server) {key other : String} (e : Entry) (h : other ≠ key) :
    (s.put key e).find? other = s.find? other := by
  have ho : (other == key) = false := by simpa using h
  simp [find?, put, List.lookup_cons, ho, lookup_filter_ne key other _ h]

theorem mark_put_self (s : Server) (key : String) (e : Entry) :
    (s.put key e).mark key = s.mark key + 1 := by
  simp [mark, put]

theorem mark_put_of_ne (s : Server) {key other : String} (e : Entry) (h : other ≠ key) :
    (s.put key e).mark other = s.mark other := by
  simp [mark, put, h.symm]

/-! ## Faults -/

def wrongType : Fault :=
  .server .response "WRONGTYPE Operation against a key holding the wrong kind of value"

def noItems : Fault := .server .response "wrong number of arguments for 'rpush' command"

/-- What is wrong with the number of seconds that a key is to be there for. It is an integer of 64 bits, above
zero, and the end of the time in milliseconds is an integer of 64 bits too. -/
inductive ExpiryFault
  | notInteger
  | invalid
  deriving DecidableEq, Repr

def ExpiryFault.message : ExpiryFault → String
  | notInteger => "value is not an integer or out of range"
  | invalid => "invalid expire time in set"

def expiryFault? (s : Server) (seconds : Int) : Option ExpiryFault :=
  if !Number.fits64 seconds then some .notInteger
  else if seconds ≤ 0 ∨ !Number.fits64 ((s.now + seconds) * 1000) then some .invalid
  else none

def badExpiry (f : ExpiryFault) : Fault := .server .response f.message

/-- A fault of the only command of a transaction. -/
def inTransaction (key fault : String) : Fault :=
  .server .response s!"Command # 1 (SET {key}) of pipeline caused error: {fault}"

def keyChanged : Fault := .server .watch "Watched variable changed."

/-! ## Commands of the job store -/

/-- A text that is to be there for some seconds from now. -/
def textFor (s : Server) (text : String) (seconds : Int) : Entry :=
  ⟨.text (Text.encodeUtf8 text), some (s.now + seconds)⟩

/-- A key that is taken stays as it is, whatever it holds. -/
def setIfAbsent (s : Server) (key text : String) (seconds : Int) : Except Fault Bool × Server :=
  match s.expiryFault? seconds with
  | some f => (.error (badExpiry f), s)
  | none =>
    match s.find? key with
    | some _ => (.ok false, s)
    | none => (.ok true, s.put key (s.textFor text seconds))

/-- The text of a key. -/
def read (s : Server) (key : String) : Except Fault (Option String) :=
  match s.find? key with
  | none => .ok none
  | some ⟨.list _, _⟩ => .error wrongType
  | some ⟨.text bytes, _⟩ =>
    match Text.decodeUtf8 bytes with
    | .ok text => .ok (some text)
    | .error fault => .error (.unreadable fault)

/-- Nothing is done to a key that was changed since the mark, or that is not there. -/
def commit (s : Server) (key : String) (mark : Nat) (text : String) (seconds : Int) :
    Except Fault Bool × Server :=
  if s.mark key ≠ mark then (.error keyChanged, s)
  else
    match s.expiryFault? seconds, s.find? key with
    | some f, _ => (.error (inTransaction key f.message), s)
    | none, none => (.ok false, s)
    | none, some _ => (.ok true, s.put key (s.textFor text seconds))

/-! ## Commands of other clients -/

/-- Set a key to any bytes, for ever or for some seconds. -/
def set (s : Server) (key : String) (bytes : List UInt8) (seconds : Option Int) :
    Except Fault Unit × Server :=
  match seconds with
  | none => (.ok (), s.put key ⟨.text bytes, none⟩)
  | some n =>
    match s.expiryFault? n with
    | some f => (.error (badExpiry f), s)
    | none => (.ok (), s.put key ⟨.text bytes, some (s.now + n)⟩)

/-- The bytes of a key. -/
def bytes (s : Server) (key : String) : Except Fault (Option (List UInt8)) :=
  match s.find? key with
  | none => .ok none
  | some ⟨.list _, _⟩ => .error wrongType
  | some ⟨.text bytes, _⟩ => .ok (some bytes)

/-- How many keys were deleted. -/
def delete (s : Server) (key : String) : Nat × Server :=
  match s.find? key with
  | none => (0, s)
  | some _ => (1, s.remove key)

/-- Add items, at least one, to the end of a list, and the length of the list. -/
def push (s : Server) (key : String) (items : List String) : Except Fault Nat × Server :=
  if items.isEmpty then (.error noItems, s)
  else
    match s.find? key with
    | none => (.ok items.length, s.put key ⟨.list items, none⟩)
    | some ⟨.list before, expiresAt⟩ =>
      (.ok (before.length + items.length), s.put key ⟨.list (before ++ items), expiresAt⟩)
    | some ⟨.text _, _⟩ => (.error wrongType, s)

/-- Whether the key is there to be given an expiry. -/
def expire (s : Server) (key : String) (seconds : Int) : Except Fault Bool × Server :=
  if !Number.fits64 seconds then (.error (badExpiry .notInteger), s)
  else
    match s.find? key with
    | none => (.ok false, s)
    | some e => (.ok true, s.put key { e with expiresAt := some (s.now + seconds) })

/-- The seconds that a key has left, -1 for ever, -2 without the key. -/
def timeLeft (s : Server) (key : String) : Int :=
  match s.find? key with
  | none => -2
  | some ⟨_, none⟩ => -1
  | some ⟨_, some t⟩ => t - s.now

/-- The keys that are there, in order. -/
def keys (s : Server) : List String :=
  ((s.entries.filter fun e => e.2.isAliveAt s.now).map (·.1)).mergeSort fun a b => a ≤ b

def advance (s : Server) (seconds : Int) : Server := { s with now := s.now + seconds }

end Server

/-! ## Answers to requests

Each request to the server is one command, which takes effect at once and as a whole. -/

def Outcome.ofExcept {α : Type} : Except Fault α → Outcome α
  | .ok a => .value a
  | .error f => .failed (.fault f)

/-- The answer to a request, and the server after it. A server that answers at once needs no timer. Other
requests that are not made to the server are left without an answer. -/
def Server.answer : (q : Request) → Server → Outcome q.Reply × Server
  | .setIfAbsent key text seconds, s =>
    let (r, s) := s.setIfAbsent key text seconds
    (.ofExcept r, s)
  | .read key, s => (.ofExcept (s.read key), s)
  | .watch key, s => (.value (s.mark key), s)
  | .readWatched key, s => (.ofExcept (s.read key), s)
  | .commit key mark text seconds, s =>
    let (r, s) := s.commit key mark text seconds
    (.ofExcept r, s)
  | .currentTime, s => (.silent, s)
  | .startTimer _, s => (.value (0 : Nat), s)
  | .stopTimer, s => (.value (), s)
  | .scan, s => (.silent, s)

end ScanAdapter
