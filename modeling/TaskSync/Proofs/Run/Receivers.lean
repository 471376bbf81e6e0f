import Mathlib.Data.List.Forall2
import Mathlib.Data.List.Induction
import Mathlib.Tactic.Set
import TaskSync.Run.Bus

/-!
# What a receiver gets

What was done to a bus and what it answered is its history. From the history alone one can tell
what each receiver is still to get: each notice published since it subscribed is received once,
counted once among those it missed, or unread, and they go in the order of publication.
-/

namespace TaskSync.Bus

/-! ### Histories -/

/-- What is done to a bus, by itself or through a copy: copies share all that a bus has. -/
inductive Step where
  | subscribe
  | unsubscribe (receiver : Nat)
  | publish (n : Notice)
  | receive (receiver : Nat)
  deriving DecidableEq

/-- What comes of it. -/
inductive Answer where
  | subscribed (receiver : Nat)
  | unsubscribed
  | published (count : Nat)
  | received (x : Received)
  deriving DecidableEq

def step (b : Bus) : Step → Answer × Bus
  | .subscribe => (.subscribed b.subscribe.1, b.subscribe.2)
  | .unsubscribe receiver => (.unsubscribed, b.unsubscribe receiver)
  | .publish n => (.published (b.publish n).1, (b.publish n).2)
  | .receive receiver => (.received (b.receive receiver).1, (b.receive receiver).2)

abbrev History := List (Step × Answer)

/-- The steps in turn, with their answers. -/
def run (b : Bus) (steps : List Step) : History × Bus :=
  steps.foldl (fun past s => (past.1 ++ [(s, (past.2.step s).1)], (past.2.step s).2)) ([], b)

theorem run_concat (b : Bus) (steps : List Step) (s : Step) :
    b.run (steps ++ [s]) =
      ((b.run steps).1 ++ [(s, ((b.run steps).2.step s).1)], ((b.run steps).2.step s).2) := by
  rw [run, List.foldl_append]
  rfl

/-- A place in a list that ends in `x` is the end, or a place in the list before. -/
theorem eq_or_eq_of_concat {α : Type} {h before after : List α} {x y : α}
    (split : h ++ [x] = before ++ y :: after) :
    (h = before ∧ x = y ∧ after = []) ∨
      ∃ after', after = after' ++ [x] ∧ h = before ++ y :: after' := by
  rcases List.eq_nil_or_concat' after with rfl | ⟨after', z, rfl⟩
  · obtain ⟨rfl, same⟩ := List.append_inj' split rfl
    exact .inl ⟨rfl, List.singleton_inj.mp same, rfl⟩
  · rw [← List.cons_append, ← List.append_assoc] at split
    obtain ⟨same, last⟩ := List.append_inj' split rfl
    exact .inr ⟨after', by rw [List.singleton_inj.mp last], same⟩

namespace History

/-- The notices that were published, received or not. -/
def notices (h : History) : List Notice :=
  h.filterMap fun
    | (.publish n, _) => some n
    | _ => none

/-- The notices that somebody was to receive. -/
def wanted (h : History) : List Notice :=
  h.filterMap fun
    | (.publish n, .published count) => if count = 0 then none else some n
    | _ => none

/-- What a receiver got. -/
def gets (receiver : Nat) (h : History) : List Received :=
  h.filterMap fun
    | (.receive r, .received x) => if r = receiver then some x else none
    | _ => none

/-- Who receives after one more step. -/
def attendance (there : List Nat) : Step × Answer → List Nat
  | (.subscribe, .subscribed receiver) => there ++ [receiver]
  | (.unsubscribe receiver, _) => there.filter (· != receiver)
  | _ => there

/-- Those who have subscribed and not left. -/
def live (h : History) : List Nat := h.foldl attendance []

theorem notices_append (h h' : History) : notices (h ++ h') = notices h ++ notices h' :=
  List.filterMap_append

theorem wanted_append (h h' : History) : wanted (h ++ h') = wanted h ++ wanted h' :=
  List.filterMap_append

theorem gets_append (r : Nat) (h h' : History) : gets r (h ++ h') = gets r h ++ gets r h' :=
  List.filterMap_append

theorem live_concat (h : History) (x : Step × Answer) :
    live (h ++ [x]) = attendance (live h) x := by
  rw [live, List.foldl_append]
  rfl

end History

/-! ### Accounts -/

namespace Received

/-- How many notices lie behind the receiver that get this. -/
def spent : Received → Nat
  | envelope _ => 1
  | lagged missed => missed
  | empty | unknown => 0

/-- The envelopes that an answer stands for. -/
inductive Covers : Received → List Envelope → Prop
  | envelope (e : Envelope) : Covers (.envelope e) [e]
  | lagged {es : List Envelope} (some : es ≠ []) : Covers (.lagged es.length) es
  | empty : Covers .empty []

/-- What there is to get where at most `held` of what is unread is kept. -/
def next (held : Nat) (unread : List Envelope) : Received :=
  if held < unread.length then .lagged (unread.length - held)
  else
    match unread with
    | [] => .empty
    | e :: _ => .envelope e

end Received

/-- How many notices lie behind a receiver. -/
def spent : List Received → Nat
  | [] => 0
  | x :: got => x.spent + spent got

theorem spent_concat (got : List Received) (x : Received) :
    spent (got ++ [x]) = spent got + x.spent := by
  induction got with
  | nil => exact Nat.add_comm ..
  | cons y got ih =>
      show y.spent + spent (got ++ [x]) = y.spent + spent got + x.spent
      rw [ih, Nat.add_assoc]

/-- All envelopes that were due are told of in their order, but for those that are unread. -/
def Accounts (due : List Envelope) (got : List Received) : Prop :=
  ∃ parts, List.Forall₂ Received.Covers got parts ∧ parts.flatten ++ due.drop (spent got) = due

/-! ### One receiver's account -/

theorem History.gets_singleton (r : Nat) (x : Received) :
    gets r [(.receive r, .received x)] = [x] := by
  simp [gets]

theorem History.gets_of_ne {r : Nat} {x : Step × Answer} (apart : x.1 ≠ .receive r) :
    gets r [x] = [] := by
  obtain ⟨s, a⟩ := x
  cases s <;> cases a <;> simp_all [gets]

theorem Received.Covers.length_eq {x : Received} {es : List Envelope} (h : x.Covers es) :
    es.length = x.spent := by
  cases h <;> rfl

/-- What is got next covers the oldest of what is unread, as many as it says. -/
theorem Received.covers_next (held : Nat) (unread : List Envelope) :
    (next held unread).Covers (unread.take (next held unread).spent) := by
  unfold next
  split
  · next behind =>
    have count : (unread.take (unread.length - held)).length = unread.length - held :=
      List.length_take_of_le (Nat.sub_le ..)
    have some : unread.take (unread.length - held) ≠ [] := by
      intro none
      rw [none, List.length_nil] at count
      omega
    have covers := Covers.lagged some
    rw [count] at covers
    exact covers
  · match unread with
    | [] => exact .empty
    | e :: _ => exact .envelope e

theorem length_flatten_of_covers {got : List Received} {parts : List (List Envelope)}
    (covered : List.Forall₂ Received.Covers got parts) : parts.flatten.length = spent got := by
  induction covered with
  | nil => rfl
  | cons covers _ ih =>
    rw [List.flatten_cons, List.length_append, covers.length_eq, ih]
    rfl

namespace Accounts

variable {due : List Envelope} {got : List Received}

theorem nil (due : List Envelope) : Accounts due [] := ⟨[], .nil, rfl⟩

theorem spent_le (h : Accounts due got) : spent got ≤ due.length := by
  obtain ⟨parts, covered, whole⟩ := h
  rw [← length_flatten_of_covers covered, ← whole, List.length_append]
  exact Nat.le_add_right ..

/-- What becomes due is unread. -/
theorem concat_due (h : Accounts due got) (e : Envelope) : Accounts (due ++ [e]) got := by
  have within := h.spent_le
  obtain ⟨parts, covered, whole⟩ := h
  refine ⟨parts, covered, ?_⟩
  rw [List.drop_append_of_le_length within, ← List.append_assoc, whole]

/-- The next answer takes the oldest of what is unread. -/
theorem concat_next (h : Accounts due got) (held : Nat) :
    Accounts due (got ++ [.next held (due.drop (spent got))]) := by
  obtain ⟨parts, covered, whole⟩ := h
  set unread := due.drop (spent got) with rest
  refine ⟨parts ++ [unread.take (Received.next held unread).spent],
    List.rel_append covered (.cons (Received.covers_next held unread) .nil), ?_⟩
  rw [spent_concat, ← List.drop_drop, ← rest, List.flatten_append, List.flatten_singleton,
    List.append_assoc, List.take_append_drop, whole]

end Accounts

/-- How what a receiver got in a part of a history stands to the envelopes that were due to it. -/
structure Told (held receiver : Nat) (due : List Envelope) (h : History) : Prop where
  whole : due.map Envelope.notice = h.notices
  accounts : Accounts due (h.gets receiver)
  answers : ∀ (before : History) a after, h = before ++ (.receive receiver, a) :: after →
    a = .received (.next held
      ((due.take before.notices.length).drop (spent (before.gets receiver))))

namespace Told

variable {held receiver : Nat} {due : List Envelope} {h : History}

theorem nil : Told held receiver [] [] where
  whole := rfl
  accounts := .nil []
  answers := by simp

theorem length_eq (t : Told held receiver due h) : due.length = h.notices.length := by
  rw [← t.whole, List.length_map]

theorem take_notices {before after : History}
    (t : Told held receiver due (before ++ after)) (e : Envelope) :
    (due ++ [e]).take before.notices.length = due.take before.notices.length := by
  refine List.take_append_of_le_length ?_
  rw [t.length_eq, History.notices_append, List.length_append]
  exact Nat.le_add_right ..

/-- A step that neither publishes nor asks for this receiver. -/
theorem concat_other (t : Told held receiver due h) {x : Step × Answer}
    (silent : History.notices [x] = []) (apart : x.1 ≠ .receive receiver) :
    Told held receiver due (h ++ [x]) where
  whole := by rw [History.notices_append, silent, List.append_nil, t.whole]
  accounts := by
    rw [History.gets_append, History.gets_of_ne apart, List.append_nil]
    exact t.accounts
  answers := by
    intro before a after split
    obtain ⟨-, same, -⟩ | ⟨after', -, here⟩ := eq_or_eq_of_concat split
    · exact absurd (congrArg Prod.fst same) apart
    · exact t.answers before a after' here

theorem concat_publish (t : Told held receiver due h) (serial : Nat) (n : Notice) (a : Answer) :
    Told held receiver (due ++ [⟨serial, n⟩]) (h ++ [(.publish n, a)]) where
  whole := by
    rw [History.notices_append, List.map_append, t.whole]
    rfl
  accounts := by
    rw [History.gets_append]
    exact (List.append_nil _).symm ▸ t.accounts.concat_due _
  answers := by
    intro before b after split
    obtain ⟨-, same, -⟩ | ⟨after', -, rfl⟩ := eq_or_eq_of_concat split
    · cases same
    · rw [t.take_notices]
      exact t.answers before b after' rfl

theorem concat_receive (t : Told held receiver due h) :
    Told held receiver due (h ++ [(.receive receiver,
      .received (.next held (due.drop (spent (h.gets receiver)))))]) where
  whole := by
    rw [History.notices_append, t.whole]
    exact (List.append_nil _).symm
  accounts := by
    rw [History.gets_append, History.gets_singleton]
    exact t.accounts.concat_next held
  answers := by
    intro before a after split
    obtain ⟨rfl, same, -⟩ | ⟨after', -, here⟩ := eq_or_eq_of_concat split
    · rw [← t.length_eq, List.take_length]
      exact (congrArg Prod.snd same).symm
    · exact t.answers before a after' here

end Told

/-! ### Places in the bus -/

theorem lookup_cons_eq (r k p : Nat) (rest : List (Nat × Nat)) :
    ((k, p) :: rest).lookup r = if r = k then some p else rest.lookup r := by
  rw [List.lookup_cons]
  by_cases same : r = k
  · simp [same]
  · have apart : (r == k) = false := by simpa using same
    simp [same, apart]

theorem lookup_moveTo (b : Bus) (receiver place r : Nat) :
    (b.moveTo receiver place).receivers.lookup r =
      if r = receiver then (b.receivers.lookup r).map fun _ => place else b.receivers.lookup r := by
  show (b.receivers.map _).lookup r = _
  induction b.receivers with
  | nil => simp
  | cons entry rest ih =>
    obtain ⟨k, p⟩ := entry
    rw [List.map_cons]
    by_cases same : k = receiver
    · subst same
      by_cases here : r = k <;> simp [lookup_cons_eq, here, ih]
    · by_cases here : r = k <;> simp [lookup_cons_eq, here, same, ih]

theorem lookup_unsubscribe (b : Bus) {receiver r : Nat} (apart : r ≠ receiver) :
    (b.unsubscribe receiver).receivers.lookup r = b.receivers.lookup r := by
  show (b.receivers.filter _).lookup r = _
  induction b.receivers with
  | nil => rfl
  | cons entry rest ih =>
    obtain ⟨k, p⟩ := entry
    by_cases same : k = receiver
    · subst same
      simp [lookup_cons_eq, apart, ih]
    · simp [lookup_cons_eq, same, ih]

theorem lookup_subscribe (b : Bus) (r : Nat) :
    b.subscribe.2.receivers.lookup r =
      (b.receivers.lookup r).or (if r = b.nextReceiver then some b.sent.size else none) := by
  show (b.receivers ++ [_]).lookup r = _
  rw [List.lookup_append, lookup_cons_eq, List.lookup_nil]

theorem keys_moveTo (b : Bus) (receiver place : Nat) :
    (b.moveTo receiver place).receivers.map Prod.fst = b.receivers.map Prod.fst := by
  show (b.receivers.map _).map Prod.fst = _
  rw [List.map_map]
  refine List.map_congr_left fun entry _ => ?_
  show (if entry.1 = receiver then _ else entry).1 = entry.1
  split
  · rfl
  · rfl

theorem keys_unsubscribe (b : Bus) (receiver : Nat) :
    (b.unsubscribe receiver).receivers.map Prod.fst =
      (b.receivers.map Prod.fst).filter (· != receiver) := by
  rw [List.filter_map]
  rfl

/-- Receiving moves one receiver at most. -/
theorem receive_cases (b : Bus) (receiver : Nat) :
    (b.receive receiver).2 = b ∨ ∃ place, (b.receive receiver).2 = b.moveTo receiver place := by
  unfold receive
  split
  · exact .inl rfl
  · split
    · exact .inr ⟨_, rfl⟩
    · split
      · exact .inr ⟨_, rfl⟩
      · exact .inl rfl

theorem receive_frame (b : Bus) (receiver : Nat) :
    ∃ receivers, (b.receive receiver).2 = { b with receivers } ∧
      receivers.map Prod.fst = b.receivers.map Prod.fst ∧
      ∀ r, r ≠ receiver → receivers.lookup r = b.receivers.lookup r := by
  obtain same | ⟨place, moved⟩ := b.receive_cases receiver
  · exact ⟨b.receivers, same, rfl, fun _ _ => rfl⟩
  · refine ⟨_, moved, b.keys_moveTo receiver place, fun r apart => ?_⟩
    exact (b.lookup_moveTo receiver place r).trans (if_neg apart)

/-- A receiver gets the next of what lies ahead of it, and moves as far as that says. -/
theorem receive_eq {b : Bus} {receiver place : Nat}
    (found : b.receivers.lookup receiver = some place) (within : place ≤ b.sent.size) :
    let x := Received.next b.capacity (b.sent.toList.drop place)
    (b.receive receiver).1 = x ∧ ∀ r, (b.receive receiver).2.receivers.lookup r =
      if r = receiver then some (place + x.spent) else b.receivers.lookup r := by
  have ahead : (b.sent.toList.drop place).length = b.sent.size - place := by simp
  have moved : ∀ p r, (b.moveTo receiver p).receivers.lookup r =
      if r = receiver then some p else b.receivers.lookup r := by
    intro p r
    rw [lookup_moveTo]
    by_cases same : r = receiver
    · rw [same, found]
      rfl
    · rw [if_neg same, if_neg same]
  unfold receive Received.next
  rw [found, ahead, oldest]
  by_cases behind : b.capacity < b.sent.size - place
  · have before : place < b.sent.size - b.capacity := by omega
    have missed : b.sent.size - b.capacity - place = b.sent.size - place - b.capacity := by omega
    have there : place + (b.sent.size - place - b.capacity) = b.sent.size - b.capacity := by omega
    simp only [if_pos before, if_pos behind, missed, Received.spent, there, true_and]
    exact moved _
  · have notBefore : ¬ place < b.sent.size - b.capacity := by omega
    simp only [if_neg notBefore, if_neg behind]
    by_cases ends : place = b.sent.size
    · have nothing : b.sent.toList.drop place = [] := by simp [ends]
      rw [nothing, Array.getElem?_eq_none (Nat.le_of_eq ends.symm)]
      refine ⟨rfl, fun r => ?_⟩
      by_cases same : r = receiver <;> simp [same, found, Received.spent]
    · have some : place < b.sent.size := Nat.lt_of_le_of_ne within ends
      have first : b.sent.toList.drop place = b.sent[place] :: b.sent.toList.drop (place + 1) :=
        List.drop_eq_getElem_cons some
      rw [first, Array.getElem?_eq_getElem some]
      exact ⟨rfl, moved _⟩

/-! ### The bus against its history -/

/-- A newcomer gets a number of its own, and who publishes is told how many are there. -/
def Answered (before : History) : Step × Answer → Prop
  | (.subscribe, a) => ∃ r, a = .subscribed r ∧ ∀ s, (s, .subscribed r) ∉ before
  | (.publish _, a) => a = .published before.live.length
  | _ => True

/-- What the history of a bus that holds so many notices says of the envelopes that were sent: each
is another one, and what a receiver is told until it leaves is about those from its subscription
on. -/
structure Faithful (held : Nat) (h : History) (sent : List Envelope) : Prop where
  notices : sent.map Envelope.notice = h.wanted
  distinct : (sent.map Envelope.serial).Nodup
  answered : ∀ before x after, h = before ++ x :: after → Answered before x
  told : ∀ r (before after : History), h = before ++ (.subscribe, .subscribed r) :: after →
    (∀ a, (.unsubscribe r, a) ∉ after) → Told held r (sent.drop before.wanted.length) after

/-- A receiver stands as far behind the place where it began as what it got says. -/
structure Placed (held r : Nat) (before after : History) (b : Bus) : Prop where
  told : Told held r (b.sent.toList.drop before.wanted.length) after
  began : before.wanted.length ≤ b.sent.size
  place : b.receivers.lookup r = some (before.wanted.length + spent (after.gets r))

/-- The bus is as its history says. -/
structure Kept (held : Nat) (h : History) (b : Bus) : Prop where
  capacity : b.capacity = held
  published : b.published = h.notices.length
  notices : b.sent.toList.map Envelope.notice = h.wanted
  serials : b.sent.toList.map Envelope.serial = List.range b.sent.size
  live : b.receivers.map Prod.fst = h.live
  below : ∀ r ∈ h.live, r < b.nextReceiver
  known : ∀ s r, (s, .subscribed r) ∈ h → r < b.nextReceiver
  answered : ∀ before x after, h = before ++ x :: after → Answered before x
  placed : ∀ r (before after : History), h = before ++ (.subscribe, .subscribed r) :: after →
    (∀ a, (.unsubscribe r, a) ∉ after) → Placed held r before after b

theorem Kept.faithful {held : Nat} {h : History} {b : Bus} (k : Kept held h b) :
    Faithful held h b.sent.toList where
  notices := k.notices
  distinct := by
    rw [k.serials]
    exact List.nodup_range
  answered := k.answered
  told r before after split stays := (k.placed r before after split stays).told

namespace Placed

variable {held r : Nat} {before after : History} {b b' : Bus}

theorem within (p : Placed held r before after b) :
    before.wanted.length + spent (after.gets r) ≤ b.sent.size := by
  have le := p.told.accounts.spent_le
  have began := p.began
  rw [List.length_drop, Array.length_toList] at le
  omega

/-- A step that neither publishes nor moves this receiver. -/
theorem concat_other (p : Placed held r before after b) {x : Step × Answer}
    (silent : History.notices [x] = []) (apart : x.1 ≠ .receive r) (sent : b'.sent = b.sent)
    (place : b'.receivers.lookup r = b.receivers.lookup r) :
    Placed held r before (after ++ [x]) b' where
  told := by
    rw [sent]
    exact p.told.concat_other silent apart
  began := by
    rw [sent]
    exact p.began
  place := by
    rw [History.gets_append, History.gets_of_ne apart, List.append_nil, place, p.place]

theorem nonempty (p : Placed held r before after b) : b.receivers ≠ [] := by
  intro none
  have place := p.place
  rw [none] at place
  cases place

theorem concat_publish (p : Placed held r before after b) (n : Notice) (a : Answer) :
    Placed held r before (after ++ [(.publish n, a)]) (b.publish n).2 := by
  -- while this receiver is there nothing that is published is dropped
  have some : ¬ b.receivers.isEmpty := by simpa using p.nonempty
  have sent : (b.publish n).2 =
      { b with published := b.published + 1, sent := b.sent.push ⟨b.sent.size, n⟩ } := by
    rw [publish, if_neg some]
  have began : before.wanted.length ≤ b.sent.toList.length := p.began
  rw [sent]
  exact {
    told := by
      rw [Array.toList_push, List.drop_append_of_le_length began]
      exact p.told.concat_publish _ n a
    began := by
      rw [Array.size_push]
      exact Nat.le_succ_of_le p.began
    place := by
      rw [History.gets_append, History.gets_of_ne (by simp), List.append_nil]
      exact p.place }

theorem concat_receive (p : Placed held r before after b) (capacity : b.capacity = held) :
    Placed held r before (after ++ [(.receive r, .received (b.receive r).1)]) (b.receive r).2 := by
  obtain ⟨answer, moved⟩ := receive_eq p.place p.within
  have sent : (b.receive r).2.sent = b.sent := by
    obtain ⟨receivers, same, -⟩ := b.receive_frame r
    rw [same]
  rw [capacity, ← List.drop_drop] at answer
  refine ⟨?_, ?_, ?_⟩
  · rw [sent, answer]
    exact p.told.concat_receive
  · rw [sent]
    exact p.began
  · rw [moved, if_pos rfl, History.gets_append, History.gets_singleton, spent_concat, answer,
      capacity, List.drop_drop, Nat.add_assoc]

end Placed

namespace Kept

variable {held : Nat} {h : History} {b : Bus}

theorem answered_concat (k : Kept held h b) {x : Step × Answer} (last : Answered h x) :
    ∀ before y after, h ++ [x] = before ++ y :: after → Answered before y := by
  intro before y after split
  obtain ⟨rfl, rfl, -⟩ | ⟨after', -, here⟩ := eq_or_eq_of_concat split
  · exact last
  · exact k.answered before y after' here

theorem placed_concat (k : Kept held h b) {x : Step × Answer} {b' : Bus}
    (new : ∀ r, x = (.subscribe, .subscribed r) → Placed held r h [] b')
    (onward : ∀ r before after, Placed held r before after b → x.1 ≠ .unsubscribe r →
      Placed held r before (after ++ [x]) b') :
    ∀ r (before after : History), h ++ [x] = before ++ (.subscribe, .subscribed r) :: after →
      (∀ a, (.unsubscribe r, a) ∉ after) → Placed held r before after b' := by
  intro r before after split stays
  -- the subscription is the last step, or the receiver was there before it
  obtain ⟨rfl, same, rfl⟩ | ⟨after', rfl, here⟩ := eq_or_eq_of_concat split
  · exact new r same
  · refine onward r before after' (k.placed r before after' here fun a there => ?_) fun leaves => ?_
    · exact stays a (List.mem_append_left _ there)
    · refine stays x.2 (List.mem_append_right _ ?_)
      rw [← leaves]
      exact List.mem_singleton_self x

theorem known_concat (k : Kept held h b) {x : Step × Answer} {next : Nat}
    (le : b.nextReceiver ≤ next) (last : ∀ r, x.2 = .subscribed r → r < next) :
    ∀ s r, (s, .subscribed r) ∈ h ++ [x] → r < next := by
  intro s r here
  obtain before | now := List.mem_append.mp here
  · exact Nat.lt_of_lt_of_le (k.known s r before) le
  · exact last r (congrArg Prod.snd (List.mem_singleton.mp now)).symm

theorem subscribe (k : Kept held h b) :
    Kept held (h ++ [(.subscribe, .subscribed b.subscribe.1)]) b.subscribe.2 where
  capacity := k.capacity
  published := by
    rw [History.notices_append]
    exact (List.append_nil _).symm ▸ k.published
  notices := by
    rw [History.wanted_append]
    exact (List.append_nil _).symm ▸ k.notices
  serials := k.serials
  live := by
    rw [History.live_concat]
    exact (List.map_append).trans (congrArg (· ++ [b.nextReceiver]) k.live)
  below := by
    intro r here
    rw [History.live_concat] at here
    obtain old | new := List.mem_append.mp here
    · exact Nat.lt_succ_of_lt (k.below r old)
    · exact List.mem_singleton.mp new ▸ Nat.lt_succ_self _
  known := k.known_concat (Nat.le_succ _) fun r same => by
    cases same
    exact Nat.lt_succ_self _
  answered := k.answered_concat ⟨_, rfl, fun s here => Nat.lt_irrefl _ (k.known s _ here)⟩
  placed := by
    refine k.placed_concat (fun r same => ?_) fun r before after p stays => ?_
    · have new : r = b.nextReceiver := by
        cases same
        rfl
      have absent : b.receivers.lookup b.nextReceiver = none := by
        refine List.lookup_eq_none_iff.mpr fun entry here => ?_
        have below := k.below entry.1 (k.live ▸ List.mem_map_of_mem here)
        simpa using Nat.ne_of_gt below
      have count : b.sent.size = h.wanted.length := by
        rw [← k.notices, List.length_map, Array.length_toList]
      refine ⟨?_, Nat.le_of_eq count.symm, ?_⟩
      · have none : b.subscribe.2.sent.toList.drop h.wanted.length = [] :=
          List.drop_eq_nil_of_le (Nat.le_of_eq count)
        rw [none]
        exact .nil
      · rw [lookup_subscribe, new, absent, if_pos rfl, count]
        rfl
    · refine p.concat_other rfl nofun rfl ?_
      rw [lookup_subscribe, p.place]
      rfl

theorem unsubscribe (k : Kept held h b) (receiver : Nat) :
    Kept held (h ++ [(.unsubscribe receiver, .unsubscribed)]) (b.unsubscribe receiver) where
  capacity := k.capacity
  published := by
    rw [History.notices_append]
    exact (List.append_nil _).symm ▸ k.published
  notices := by
    rw [History.wanted_append]
    exact (List.append_nil _).symm ▸ k.notices
  serials := k.serials
  live := by
    rw [History.live_concat, keys_unsubscribe, k.live]
    rfl
  below := by
    intro r here
    rw [History.live_concat] at here
    exact k.below r (List.mem_of_mem_filter here)
  known := k.known_concat (Nat.le_refl _) nofun
  answered := k.answered_concat trivial
  placed := by
    refine k.placed_concat nofun fun r before after p stays => ?_
    have apart : r ≠ receiver := fun same => stays (same ▸ rfl)
    exact p.concat_other rfl nofun rfl (lookup_unsubscribe b apart)

theorem published_concat (k : Kept held h b) (n : Notice) (a : Answer) :
    b.published + 1 = (h ++ [(.publish n, a)] : History).notices.length := by
  rw [History.notices_append, List.length_append, k.published]
  rfl

theorem live_publish (h : History) (n : Notice) (a : Answer) :
    (h ++ [(.publish n, a)] : History).live = h.live := by
  rw [History.live_concat]
  rfl

/-- Nobody is there to receive it. -/
theorem publish_unheard (k : Kept held h b) (n : Notice) (none : b.receivers = []) :
    Kept held (h ++ [(.publish n, .published 0)]) { b with published := b.published + 1 } where
  capacity := k.capacity
  published := k.published_concat n _
  notices := by
    rw [History.wanted_append]
    exact (List.append_nil _).symm ▸ k.notices
  serials := k.serials
  live := k.live.trans (live_publish h n _).symm
  below := live_publish h n _ ▸ k.below
  known := k.known_concat (Nat.le_refl _) nofun
  answered := by
    refine k.answered_concat (congrArg Answer.published ?_)
    rw [← k.live, none]
    rfl
  placed := k.placed_concat nofun fun r before after p _ => absurd none p.nonempty

theorem publish (k : Kept held h b) (n : Notice) :
    Kept held (h ++ [(.publish n, .published (b.publish n).1)]) (b.publish n).2 := by
  by_cases none : b.receivers.isEmpty
  · have unheard : b.publish n = (0, { b with published := b.published + 1 }) := by
      rw [Bus.publish, if_pos none]
    rw [unheard]
    exact k.publish_unheard n (List.isEmpty_iff.mp none)
  · have heard : b.publish n = (b.subscriberCount,
        { b with published := b.published + 1, sent := b.sent.push ⟨b.sent.size, n⟩ }) := by
      rw [Bus.publish, if_neg none]
    have count : b.subscriberCount = h.live.length := by
      rw [← k.live, List.length_map, subscriberCount]
    have some : b.subscriberCount ≠ 0 := by
      rw [subscriberCount]
      simpa using none
    have wanted : History.wanted [(.publish n, .published b.subscriberCount)] = [n] := by
      simp [History.wanted, some]
    have onward : ∀ r before after, Placed held r before after b →
        Placed held r before (after ++ [(.publish n, .published (b.publish n).1)])
          (b.publish n).2 :=
      fun r before after p => p.concat_publish n _
    rw [heard] at onward ⊢
    exact {
      capacity := k.capacity
      published := k.published_concat n _
      notices := by
        rw [History.wanted_append, wanted, Array.toList_push, List.map_append, k.notices]
        rfl
      serials := by
        rw [Array.toList_push, List.map_append, k.serials, Array.size_push, List.range_succ]
        rfl
      live := k.live.trans (live_publish h n _).symm
      below := live_publish h n _ ▸ k.below
      known := k.known_concat (Nat.le_refl _) nofun
      answered := k.answered_concat (congrArg Answer.published count)
      placed := k.placed_concat nofun fun r before after p _ => onward r before after p }

theorem receive (k : Kept held h b) (receiver : Nat) :
    Kept held (h ++ [(.receive receiver, .received (b.receive receiver).1)])
      (b.receive receiver).2 := by
  obtain ⟨receivers, same, keys, others⟩ := b.receive_frame receiver
  have live : (h ++ [(.receive receiver, .received (b.receive receiver).1)] : History).live =
      h.live := by
    rw [History.live_concat]
    rfl
  have placed : ∀ r (before after : History), Placed held r before after b →
      Placed held r before (after ++ [(.receive receiver, .received (b.receive receiver).1)])
        (b.receive receiver).2 := by
    intro r before after p
    by_cases its : r = receiver
    · subst its
      exact p.concat_receive k.capacity
    · have apart : Step.receive receiver ≠ .receive r := fun e => its (Step.receive.inj e).symm
      exact p.concat_other rfl apart (by rw [same]) (by rw [same]; exact others r its)
  rw [same] at placed ⊢
  exact {
    capacity := k.capacity
    published := by
      rw [History.notices_append]
      exact (List.append_nil _).symm ▸ k.published
    notices := by
      rw [History.wanted_append]
      exact (List.append_nil _).symm ▸ k.notices
    serials := k.serials
    live := (keys.trans k.live).trans live.symm
    below := live ▸ k.below
    known := k.known_concat (Nat.le_refl _) nofun
    answered := k.answered_concat trivial
    placed := k.placed_concat nofun fun r before after p _ => placed r before after p }

theorem step (k : Kept held h b) (s : Step) :
    Kept held (h ++ [(s, (b.step s).1)]) (b.step s).2 := by
  cases s with
  | subscribe => exact k.subscribe
  | unsubscribe receiver => exact k.unsubscribe receiver
  | publish n => exact k.publish n
  | receive receiver => exact k.receive receiver

end Kept

theorem kept_run {held : Nat} {b : Bus} (fresh : Kept held [] b) (steps : List Step) :
    Kept held (b.run steps).1 (b.run steps).2 := by
  induction steps using List.reverseRecOn with
  | nil => exact fresh
  | append_singleton steps s ih =>
    rw [run_concat]
    exact ih.step s

/-! ### Capacities -/

theorem le_powerOfTwo (n : Nat) : n ≤ powerOfTwo n := by
  unfold powerOfTwo
  split
  · assumption
  · have := Nat.lt_log2_self (n := n - 1)
    omega

theorem exists_powerOfTwo_eq (n : Nat) : ∃ k, powerOfTwo n = 2 ^ k := by
  unfold powerOfTwo
  split
  · exact ⟨0, rfl⟩
  · exact ⟨_, rfl⟩

theorem powerOfTwo_le {n k : Nat} (le : n ≤ 2 ^ k) : powerOfTwo n ≤ 2 ^ k := by
  unfold powerOfTwo
  split
  · exact Nat.one_le_two_pow
  · have less : (n - 1).log2 < k := (Nat.log2_lt (by omega)).mpr (by omega)
    exact Nat.pow_le_pow_right (by decide) less

theorem withCapacity?_eq_some {n : Nat} (positive : 0 < n) (bounded : n ≤ maxCapacity) :
    withCapacity? n = some ⟨powerOfTwo n, 0, #[], [], 0⟩ := by
  rw [withCapacity?, if_neg (by omega)]

theorem kept_fresh (held : Nat) : Kept held [] ⟨held, 0, #[], [], 0⟩ where
  capacity := rfl
  published := rfl
  notices := rfl
  serials := rfl
  live := rfl
  below := nofun
  known := nofun
  answered := by simp
  placed := by simp

/-- A bus for `n` notices holds the least power of two that is not below `n`. Whatever is done to
it, it counts all that is published; there is one envelope for each notice that somebody was to
receive, the same for all; and what a receiver got accounts for all that was published since it
subscribed, in order, where it is told that it fell behind only when more is unread than is held. -/
theorem accounting {n : Nat} (positive : 0 < n) (bounded : n ≤ maxCapacity) :
    ∃ b, withCapacity? n = some b ∧
      (n ≤ b.capacity ∧ (∃ k, b.capacity = 2 ^ k) ∧ ∀ k, n ≤ 2 ^ k → b.capacity ≤ 2 ^ k) ∧
      ∀ steps, (b.run steps).2.published = (b.run steps).1.notices.length ∧
        ∃ sent, Faithful b.capacity (b.run steps).1 sent := by
  refine ⟨_, withCapacity?_eq_some positive bounded,
    ⟨le_powerOfTwo n, exists_powerOfTwo_eq n, fun k => powerOfTwo_le⟩, fun steps => ?_⟩
  have kept := kept_run (kept_fresh (powerOfTwo n)) steps
  exact ⟨kept.published, _, kept.faithful⟩

theorem accounting_sample :
    0 < 3 ∧ 3 ≤ maxCapacity ∧ ∃ b, withCapacity? 3 = some b ∧
      (3 ≤ b.capacity ∧ (∃ k, b.capacity = 2 ^ k) ∧ ∀ k, 3 ≤ 2 ^ k → b.capacity ≤ 2 ^ k) ∧
      ∀ steps, (b.run steps).2.published = (b.run steps).1.notices.length ∧
        ∃ sent, Faithful b.capacity (b.run steps).1 sent :=
  ⟨by decide, by decide, accounting (by decide) (by decide)⟩

/-- Four notices, where two are held. -/
example :
    (run ⟨powerOfTwo 2, 0, #[], [], 0⟩ [.publish (.deleted "a"), .subscribe,
      .publish (.deleted "b"), .publish (.deleted "c"), .publish (.deleted "d"),
      .receive 0, .receive 0]).1.gets 0 = [.lagged 1, .envelope ⟨1, .deleted "c"⟩] := by
  decide

end TaskSync.Bus
