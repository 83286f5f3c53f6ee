import ScanAdapter.Proofs.Number.Rounding
import ScanAdapter.Proofs.Text.Utf8
import ScanAdapter.Store.Server
import ScanAdapter.Store.Basic

/-!
# Keys of the server

What the commands of the job store do to one key: what is read after a write, that every write of the key moves
its mark, and that a commit takes effect exactly where the mark stands still and the key is there.
-/
namespace ScanAdapter

/-- A filter that lets less through makes the one before it superfluous. -/
theorem filter_filter_of_imp {α : Type} {p q : α → Bool} (h : ∀ a, q a = true → p a = true) (o : Option α) :
    (o.filter p).filter q = o.filter q := by
  rw [Option.filter_filter]
  refine congrArg (Option.filter · o) (funext fun a => ?_)
  cases hq : q a with
  | false => exact Bool.and_false _
  | true => rw [h a hq, Bool.and_true]

namespace Server

variable {s : Server} {key text : String} {seconds : Int}

/-- What is read of a key that holds a text for now. -/
theorem read_of_find? {e : Entry} (h : s.find? key = some e) (ht : e.content = .text (Text.encodeUtf8 text)) :
    s.read key = .ok (some text) := by
  obtain ⟨content, expiresAt⟩ := e
  cases ht
  rw [read, h]
  dsimp only
  rw [Text.decodeUtf8_encodeUtf8]

theorem read_of_find?_none (h : s.find? key = none) : s.read key = .ok none := by rw [read, h]

theorem find?_of_read_none (h : s.read key = .ok none) : s.find? key = none := by
  unfold read at h
  split at h
  · assumption
  · cases h
  · split at h <;> cases h

theorem read_congr {t : Server} (h : t.find? key = s.find? key) : t.read key = s.read key := by rw [read, read, h]

theorem find?_of_read_some (h : s.read key = .ok (some text)) : ∃ e, s.find? key = some e := by
  unfold read at h
  split at h
  · cases h
  · cases h
  · exact ⟨_, by assumption⟩

theorem find?_remove_self (s : Server) (key : String) : (s.remove key).find? key = none := by
  have hnone : (s.entries.filter (·.1 != key)).lookup key = none := by
    refine List.lookup_eq_none_iff.2 fun e he => ?_
    have hne : e.1 ≠ key := by simpa using (List.mem_filter.1 he).2
    simpa using hne.symm
  rw [find?, remove, hnone]
  rfl

theorem mark_remove_self (s : Server) (key : String) : (s.remove key).mark key = s.mark key + 1 := by
  simp [mark, remove]

/-- What is written for some seconds is there at once. -/
theorem find?_put_textFor (h : 0 ≤ seconds) :
    (s.put key (s.textFor text seconds)).find? key = some (s.textFor text seconds) := by
  rw [find?_put_self, if_pos]
  simp only [Entry.isAliveAt, textFor, Option.all_some, decide_eq_true_iff]
  omega

theorem read_put_textFor (h : 0 ≤ seconds) : (s.put key (s.textFor text seconds)).read key = .ok (some text) :=
  read_of_find? (find?_put_textFor h) rfl

theorem seconds_pos (h : s.expiryFault? seconds = none) : 0 < seconds := by
  unfold expiryFault? at h
  split at h
  · cases h
  · split at h
    · cases h
    · omega

/-- The server takes a lifetime whatever keys it has. -/
theorem expiryFault?_congr {t : Server} (h : t.now = s.now) (seconds : Int) :
    t.expiryFault? seconds = s.expiryFault? seconds := by rw [expiryFault?, expiryFault?, h]

theorem setIfAbsent_taken {e : Entry} (hlife : s.expiryFault? seconds = none) (hfind : s.find? key = some e) :
    s.setIfAbsent key text seconds = (.ok false, s) := by rw [setIfAbsent, hlife, hfind]

theorem setIfAbsent_free (hlife : s.expiryFault? seconds = none) (hfind : s.find? key = none) :
    s.setIfAbsent key text seconds = (.ok true, s.put key (s.textFor text seconds)) := by
  rw [setIfAbsent, hlife, hfind]

theorem commit_changed {mark : Nat} (h : s.mark key ≠ mark) :
    s.commit key mark text seconds = (.error keyChanged, s) := if_pos h

theorem commit_unchanged {e : Entry} (hlife : s.expiryFault? seconds = none) (hfind : s.find? key = some e) :
    s.commit key (s.mark key) text seconds = (.ok true, s.put key (s.textFor text seconds)) := by
  rw [commit, if_neg (fun h => h rfl), hlife, hfind]

/-- What is gone now is gone later. -/
theorem find?_advance (s : Server) (key : String) (span : Nat) :
    (s.advance span).find? key = (s.find? key).filter fun e => e.isAliveAt (s.now + span) := by
  have hnow : (s.advance span).now = s.now + span := rfl
  rw [find?, hnow]
  refine (filter_filter_of_imp (fun e he => ?_) _).symm
  cases hexpires : e.expiresAt with
  | none => rw [Entry.isAliveAt, hexpires, Option.all_none]
  | some t =>
    simp only [Entry.isAliveAt, hexpires, Option.all_some, decide_eq_true_iff] at he ⊢
    omega

/-- A key that is still there after some time is what it was. -/
theorem find?_advance_of_alive {span : Nat} (h : ∀ e ∈ s.find? key, e.isAliveAt (s.now + span) = true) :
    (s.advance span).find? key = s.find? key := by
  rw [find?_advance]
  cases hfind : s.find? key with
  | none => rfl
  | some e => exact Option.filter_eq_some_iff.2 ⟨rfl, h e hfind⟩

/-- Time takes a key away or leaves it as it was. -/
theorem find?_advance_cases (s : Server) (key : String) (span : Nat) :
    (s.advance span).find? key = none ∨ (s.advance span).find? key = s.find? key := by
  by_cases halive : ∀ e ∈ s.find? key, e.isAliveAt (s.now + span) = true
  · exact .inr (find?_advance_of_alive halive)
  · push Not at halive
    obtain ⟨e, he, hdead⟩ := halive
    rw [find?_advance, he]
    exact .inl (Option.filter_eq_none_iff.2 (by rintro _ ⟨⟩; exact hdead))

/-- A new key is set for a while where there is none; in all other cases nothing is changed. -/
theorem setIfAbsent_cases (s : Server) (key text : String) (seconds : Int) :
    (∃ f, s.setIfAbsent key text seconds = (.error f, s)) ∨ s.setIfAbsent key text seconds = (.ok false, s) ∨
      s.setIfAbsent key text seconds = (.ok true, s.put key (s.textFor text seconds)) ∧ s.find? key = none ∧
        0 ≤ seconds := by
  unfold setIfAbsent
  cases hlife : s.expiryFault? seconds with
  | some f => exact .inl ⟨_, rfl⟩
  | none =>
    cases hfind : s.find? key with
    | some e => exact .inr (.inl rfl)
    | none => exact .inr (.inr ⟨rfl, rfl, (seconds_pos hlife).le⟩)

/-- A commit writes a key that is there and was not changed since the mark; in all other cases nothing is changed. -/
theorem commit_cases (s : Server) (key : String) (mark : Nat) (text : String) (seconds : Int) :
    (∃ f, s.commit key mark text seconds = (.error f, s)) ∨ s.commit key mark text seconds = (.ok false, s) ∨
      s.commit key mark text seconds = (.ok true, s.put key (s.textFor text seconds)) ∧ s.mark key = mark ∧
        (∃ e, s.find? key = some e) ∧ 0 ≤ seconds := by
  by_cases hmark : s.mark key = mark
  · rw [commit, if_neg (not_not_intro hmark)]
    cases hlife : s.expiryFault? seconds with
    | some f => exact .inl ⟨_, rfl⟩
    | none =>
      cases hfind : s.find? key with
      | none => exact .inr (.inl rfl)
      | some e => exact .inr (.inr ⟨rfl, hmark, ⟨e, rfl⟩, (seconds_pos hlife).le⟩)
  · exact .inl ⟨_, commit_changed hmark⟩

/-! ## Answers -/

theorem answer_read {held : Option String} (h : s.read key = .ok held) :
    s.answer (.read key) = (.value held, s) := by
  rw [answer, h]
  rfl

theorem answer_read_error {f : Fault} (h : s.read key = .error f) :
    s.answer (.read key) = (.failed (.fault f), s) := by
  rw [answer, h]
  rfl

theorem answer_readWatched {held : Option String} (h : s.read key = .ok held) :
    s.answer (.readWatched key) = (.value held, s) := by
  rw [answer, h]
  rfl

theorem answer_readWatched_error {f : Fault} (h : s.read key = .error f) :
    s.answer (.readWatched key) = (.failed (.fault f), s) := by
  rw [answer, h]
  rfl

theorem answer_setIfAbsent {s' : Server} {r : Except Fault Bool} (h : s.setIfAbsent key text seconds = (r, s')) :
    s.answer (.setIfAbsent key text seconds) = (.ofExcept r, s') := by
  rw [answer, h]

theorem answer_commit {s' : Server} {mark : Nat} {r : Except Fault Bool}
    (h : s.commit key mark text seconds = (r, s')) :
    s.answer (.commit key mark text seconds) = (.ofExcept r, s') := by
  rw [answer, h]

/-- To set a new key leaves the server as it was, or with the text where there was no key. -/
theorem answer_setIfAbsent_cases (s : Server) (key text : String) (seconds : Int) :
    (s.answer (.setIfAbsent key text seconds)).2 = s ∨
      (s.answer (.setIfAbsent key text seconds)).2 = s.put key (s.textFor text seconds) ∧ s.find? key = none ∧
        0 ≤ seconds := by
  rcases s.setIfAbsent_cases key text seconds with ⟨f, hset⟩ | hset | ⟨hset, hput⟩
  · exact .inl (congrArg Prod.snd (answer_setIfAbsent hset))
  · exact .inl (congrArg Prod.snd (answer_setIfAbsent hset))
  · exact .inr ⟨congrArg Prod.snd (answer_setIfAbsent hset), hput⟩

/-- A commit leaves the server as it was, or with the text where there was a key, unchanged since the mark. -/
theorem answer_commit_cases (s : Server) (key : String) (mark : Nat) (text : String) (seconds : Int) :
    (s.answer (.commit key mark text seconds)).2 = s ∨
      (s.answer (.commit key mark text seconds)).2 = s.put key (s.textFor text seconds) ∧ s.mark key = mark ∧
        (∃ e, s.find? key = some e) ∧ 0 ≤ seconds := by
  rcases s.commit_cases key mark text seconds with ⟨f, hset⟩ | hset | ⟨hset, hput⟩
  · exact .inl (congrArg Prod.snd (answer_commit hset))
  · exact .inl (congrArg Prod.snd (answer_commit hset))
  · exact .inr ⟨congrArg Prod.snd (answer_commit hset), hput⟩

end Server

/-! ## Lifetimes -/

/-- The clock has not come so far that the end of so many seconds could not be told in milliseconds. -/
def Server.Tells (now seconds : Int) : Prop := 0 ≤ now ∧ Number.fits64 ((now + seconds) * 1000) = true

theorem Server.Tells.mono {now later seconds : Int} (h : Tells later seconds) (hnow : 0 ≤ now) (hle : now ≤ later)
    (hseconds : 0 ≤ seconds) : Tells now seconds := by
  refine ⟨hnow, ?_⟩
  have hbounds := h.2
  simp only [Number.fits64, Bool.and_eq_true, decide_eq_true_iff] at hbounds ⊢
  omega

/-- A lifetime of at least a second is taken by a server whose clock can tell its end. -/
theorem Server.expiryFault?_eq_none {s : Server} {seconds : Int} (hseconds : 1 ≤ seconds)
    (hclock : Tells s.now seconds) : s.expiryFault? seconds = none := by
  obtain ⟨hnow, hend⟩ := hclock
  have hbounds := hend
  simp only [Number.fits64, Bool.and_eq_true, decide_eq_true_iff] at hbounds
  have hfits : Number.fits64 seconds = true := by
    simp only [Number.fits64, Bool.and_eq_true, decide_eq_true_iff]
    omega
  rw [expiryFault?, hfits, hend, if_neg (by decide), if_neg (by simp; omega)]

theorem Binary64.nearest_den_pos {num den : Nat} (hd : 0 < den) : 0 < (nearest num den).2 := by
  unfold nearest
  split
  · rw [Finite.fraction]
    exact Nat.pow_pos (by decide)
  · exact hd

theorem Duration.one_le_wholeSeconds {d : Duration} (h : Duration.second ≤ d.microseconds) : 1 ≤ d.wholeSeconds := by
  have hsecond : second = 1000000 := rfl
  have hle : (Binary64.nearest d.microseconds.natAbs second).2 ≤ (Binary64.nearest d.microseconds.natAbs second).1 :=
    Binary64.le_nearest (by decide) (by omega)
  have hpos := @Binary64.nearest_den_pos d.microseconds.natAbs second (by decide)
  rw [wholeSeconds]
  generalize Binary64.nearest d.microseconds.natAbs second = fraction at hle hpos
  obtain ⟨num, den⟩ := fraction
  dsimp only at hle hpos ⊢
  rw [if_neg (by omega)]
  exact_mod_cast (Nat.one_le_div_iff hpos).2 hle

/-- No span has more seconds than a thousand million days have. -/
theorem Duration.wholeSeconds_le (d : Duration) : d.wholeSeconds ≤ 86400000000000 := by
  obtain ⟨microseconds, -, hlt⟩ := d
  rw [wholeSeconds]
  dsimp only
  by_cases hneg : microseconds < 0
  · rw [if_pos hneg]
    exact Int.le_trans (Int.neg_nonpos_of_nonneg (Int.natCast_nonneg _)) (by decide)
  · rw [if_neg hneg]
    have hsecond : second = 1000000 := rfl
    have hle := @Binary64.nearest_le microseconds.natAbs second 86400000000000 (by decide) (by norm_num) (by omega)
    exact_mod_cast Nat.div_le_of_le_mul (by rwa [Nat.mul_comm])

/-- A job is kept for a second at least. -/
def Ttl.HasSecond : Ttl → Prop
  | span d => Duration.second ≤ d.microseconds
  | seconds n => 1 ≤ n

theorem Ttl.HasSecond.one_le {l : Ttl} (h : l.HasSecond) : 1 ≤ l.wholeSeconds := by
  cases l with
  | span d => exact Duration.one_le_wholeSeconds h
  | seconds n => exact h

end ScanAdapter
