import Mathlib
import DirectShare.Proofs.Session.Registration
import DirectShare.Proofs.Session.SenderScript
import DirectShare.Proofs.Task.Announcement

/-!
# The beginning of a session

A sender that is given a task makes its announcement, registers the task, and sends the announcement when a version is
agreed on. `Sender.begins_handle` says what becomes of any task: it is taken, or refused because of the network or the
table, or the sender crashes since the sizes of the files do not add up in 64 bits, which `Sender.crashed_handle_iff`
makes the only event on which a sender crashes. `Sender.Course.Announces` says that nothing but one announcement is
ever sent. Every event keeps it, so that `Sender.announced_exactly_or_crashed` can say what is announced of a task
whatever happens after its beginning.
-/

namespace DirectShare.Sender

open Handshake (idealSurroundings cooperates_ideal settled_plain exists_announced)

variable {settings : Settings} {name : String} {s : Sender} {env : Surroundings} {event : Event} {table : TaskTable}
  {task : SharedTask} {network : NetworkInfo} {request : SendRequest} {c : Course}

/-! ### The first event -/

/-- The request that is made for a task, if its sizes add up in 64 bits. -/
def request? (settings : Settings) (name : String) (task : SharedTask) : Option SendRequest :=
  task.totalSize?.map fun totalSize => task.announce totalSize name settings.deviceName

/-- What becomes of a task that a sender is given, with the request that is made for it. -/
inductive Begins (s : Sender) (table : TaskTable) (task : SharedTask) (network : NetworkInfo)
    (request? : Option SendRequest) : Turn → Prop
  /-- The sender takes the task. -/
  | takes {t : Turn} {port : UInt16} {request : SendRequest} (hport : network.servicePort? = some port)
      (hrequest : request? = some request) (hnew : table.find? task.id = none)
      (hstage : t.session.stage = .advertising) (hjob : t.session.job = some ⟨task.id, request, network, port⟩)
      (hlisted : t.table.Has task .offered) (hsaid : t.intents = [.readDeviceInfo]) (hreturns : t.crashed = false) :
      Begins s table task network request? t
  /-- The sender refuses it, as the network has no port for it or the table another task of its name. -/
  | refuses {t : Turn} {e : Failure}
      (hcause : network.servicePort? = none ∧ e = .servicePort network.port ∨
        network.servicePort? ≠ none ∧ request? ≠ none ∧ table.find? task.id ≠ none ∧ e = .task (.duplicate task.id))
      (hstage : t.session.stage = .failed e) (hjob : t.session.job = none) (htable : t.table = table)
      (hsaid : t.intents = [.finished (.error e)]) (hreturns : t.crashed = false) :
      Begins s table task network request? t
  /-- The sender crashes before it has done anything, as there is no request for the task. -/
  | crashes {port : UInt16} (hport : network.servicePort? = some port) (hrequest : request? = none) :
      Begins s table task network request? { session := s, table, crashed := true }

/-- A sender begins with any task, or refuses it, or crashes. -/
theorem begins_handle (settings : Settings) (name : String) (env : Surroundings) (task : SharedTask)
    (network : NetworkInfo) (table : TaskTable) :
    Begins { settings, id := name } table task network (request? settings name task)
      (handle env (.begin task network) { settings, id := name } table) := by
  have hturn : handle env (.begin task network) { settings, id := name } table =
      conclude env (begin env task network { session := { settings, id := name }, table }) := by
    rw [handle_eq rfl (show Event.begin task network ≠ .abort from nofun), step_begin rfl]
  rw [hturn, begin, request?]
  cases hport : network.servicePort? with
  | none => exact .refuses (.inl ⟨hport, rfl⟩) rfl rfl rfl rfl rfl
  | some port =>
    cases hsize : task.totalSize? with
    | none => exact .crashes hport rfl
    | some totalSize =>
      simp only [Steps.bind_apply, Act.session_apply, onTable_apply]
      cases hfind : table.find? task.id with
      | none =>
        obtain ⟨table', hregister, hlisted⟩ := TaskTable.exists_register hfind env.now
        rw [hregister]
        exact .takes hport rfl hfind rfl rfl hlisted rfl rfl
      | some e =>
        have hrefused : table.register task env.now = .error (.duplicate task.id) := by
          rw [TaskTable.register, hfind]
        rw [hrefused]
        exact .refuses (.inr ⟨by simp [hport], by simp, by simp [hfind], rfl⟩) rfl rfl rfl rfl rfl

/-- A sender crashes on nothing but its first task, if that can be sent through the network but has sizes that do not
add up in 64 bits. -/
theorem crashed_handle_iff : (handle env event s table).crashed = true ↔
    s.stage = .idle ∧ ∃ task network, event = .begin task network ∧ network.servicePort? ≠ none ∧
      UInt64.size ≤ task.byteCount := by
  constructor
  · intro hcrashed
    cases hs : s.stage.isTerminal with
    | true =>
      rw [handle_of_isTerminal hs] at hcrashed
      cases hcrashed
    | false =>
      have hturn := handle_answers env table hs event
      revert hcrashed hturn
      generalize handle env event s table = t
      intro hcrashed hturn
      cases hturn with
      | crashed hidle hport hsize =>
        exact ⟨hidle, _, _, rfl, by simp [hport], SharedTask.totalSize?_eq_none_iff.1 hsize⟩
      | _ => cases hcrashed
  · rintro ⟨hidle, task, network, rfl, hport, hsize⟩
    obtain ⟨port, hport⟩ := Option.ne_none_iff_exists'.1 hport
    rw [handle_of_answers (.crashed hidle hport (SharedTask.totalSize?_eq_none_iff.2 hsize)) (by simp [hidle])]

/-! ### What is announced later -/

/-- A sender that has begun never begins again, and keeps its job. -/
lemma begun_of_answers {t : Turn} (hbegun : s.stage ≠ .idle) (hturn : Answers env s table event t) :
    t.session.stage ≠ .idle ∧ t.session.job = s.job := by
  cases hturn with
  | began hidle => exact absurd hidle hbegun
  | crashed hidle => exact absurd hidle hbegun
  | described hadvertising => exact ⟨by simp [hadvertising], rfl⟩
  | _ => exact ⟨nofun, rfl⟩

namespace Course

/-- The sender has begun, and what it announces, now or later, is the one request. -/
structure Announces (request : SendRequest) (c : Course) : Prop where
  begun : c.sender.stage ≠ .idle
  job : ∀ j, c.sender.job = some j → j.request = request
  said : ∀ m bytes sequence, (m, .send bytes) ∈ c.said → Frame.HasHeader .action sequence .sendRequest bytes →
    Frame.Carries m.env.provider .action sequence .sendRequest (Json.Record.toJson request) bytes

/-- Every event keeps the sender to its announcement. -/
lemma Announces.next (h : c.Announces request) (m : Moment) : (c.next m).Announces request := by
  cases hs : c.sender.stage.isTerminal with
  | true =>
    rw [next_of_isTerminal hs]
    exact h
  | false =>
    have hturn := handle_answers m.env m.table hs m.event
    obtain ⟨hbegun, hjob⟩ := begun_of_answers h.begun hturn
    refine ⟨hbegun, fun j hj => h.job j (hjob ▸ hj), fun m' bytes sequence hmem hheader => ?_⟩
    obtain hold | hnew := List.mem_append.1 hmem
    · exact h.said m' bytes sequence hold hheader
    · obtain ⟨i, hi, ⟨⟩⟩ := List.mem_map.1 hnew
      obtain ⟨j, hj, -, hcarries⟩ := announcement_of_sends hturn hi hheader
      rw [h.job j hj] at hcarries
      exact hcarries

/-- A course goes on with one more event. -/
lemma run_append_singleton (c : Course) (ms : List Moment) (m : Moment) : c.run (ms ++ [m]) = (c.run ms).next m := by
  rw [run, List.foldl_append]
  rfl

/-- All events keep the sender to its announcement. -/
lemma Announces.run (h : c.Announces request) (ms : List Moment) : (c.run ms).Announces request := by
  induction ms generalizing c with
  | nil => exact h
  | cons m ms ih => exact ih (h.next m)

end Course

/-- The course of a sender that is given a task at first. -/
def beginning (settings : Settings) (name : String) (env : Surroundings) (task : SharedTask) (network : NetworkInfo)
    (table : TaskTable) : Course :=
  Course.next { sender := { settings, id := name } } ⟨env, .begin task network, table⟩

/-- From its first event on a sender announces nothing but the task that it was given, if there is a request for it. -/
lemma announces_beginning (env : Surroundings) (network : NetworkInfo) (table : TaskTable)
    (hrequest : request? settings name task = some request) :
    (beginning settings name env task network table).Announces request := by
  have h := begins_handle settings name env task network table
  revert h
  rw [beginning, Course.next, hrequest]
  generalize handle env (.begin task network) { settings, id := name } table = t
  intro h
  cases h with
  | takes hport hrequest hnew hstage hjob hlisted hsaid =>
    cases hrequest
    refine ⟨by simp [hstage], fun j hj => ?_, by simp [hsaid]⟩
    cases hjob.symm.trans hj
    rfl
  | refuses hcause hstage hjob htable hsaid =>
    refine ⟨by simp [hstage], fun j hj => ?_, by simp [hsaid]⟩
    cases hjob.symm.trans hj
  | crashes hport hnone => cases hnone

/-- **What is announced.** A sender that is given a task of less than 2^32 files has a request for it exactly if the
number of its bytes is below 2^64, and begins accordingly: it takes the task, or refuses it because of the network or
the table, or crashes if there is no request. A request tells the task exactly, and whatever happens then, nothing but
this request is announced. -/
theorem announced_exactly_or_crashed (settings : Settings) (name : String) (env : Surroundings) (network : NetworkInfo)
    (table : TaskTable) (hfew : task.files.length < UInt32.size) :
    ∃ request? : Option SendRequest, (request? = none ↔ UInt64.size ≤ task.byteCount) ∧
      Begins { settings, id := name } table task network request?
        (handle env (.begin task network) { settings, id := name } table) ∧
      ∀ request, request? = some request → request.Tells task ∧
        ∀ ms m bytes sequence, (m, .send bytes) ∈ ((beginning settings name env task network table).run ms).said →
          Frame.HasHeader .action sequence .sendRequest bytes →
            Frame.Carries m.env.provider .action sequence .sendRequest (Json.Record.toJson request) bytes := by
  refine ⟨request? settings name task, ?_, begins_handle .., fun request hrequest => ⟨?_, fun ms => ?_⟩⟩
  · rw [request?, Option.map_eq_none_iff, SharedTask.totalSize?_eq_none_iff]
  · obtain ⟨totalSize, hsize, rfl⟩ := Option.map_eq_some_iff.1 hrequest
    exact SharedTask.tells_announce _ _ hfew hsize
  · exact ((announces_beginning env network table hrequest).run ms).said

/-! ### A session that comes to its announcement -/

/-- The course of a sender without encryption that is given a task. -/
def openCourse (task : SharedTask) : Course :=
  beginning { deviceName := "left", encryption := false } "s" (idealSurroundings []) task
    (.plain "ssid" "psk" "mac" 8443) { grace := 0, lifetime := 0 }

/-- Any task whose sizes add up is announced in the end, if the receiver does its part. -/
lemma exists_announcing (task : SharedTask) {totalSize : UInt64} (hsize : task.totalSize? = some totalSize) :
    ∃ ms m bytes, (m, .send bytes) ∈ ((openCourse task).run ms).said ∧
      Frame.HasHeader .action 1 .sendRequest bytes := by
  let settings : Settings := { deviceName := "left", encryption := false }
  let env := idealSurroundings []
  let network := NetworkInfo.plain "ssid" "psk" "mac" 8443
  have hport : network.servicePort? = some 8443 := by decide
  have hnew : TaskTable.find? { grace := 0, lifetime := 0 } task.id = none := rfl
  obtain ⟨table', hregister, -⟩ := TaskTable.exists_register hnew 0
  have hbegun : handle env (.begin task network) { settings, id := "s" } { grace := 0, lifetime := 0 } = _ :=
    handle_of_answers (.began rfl hport hsize hregister) nofun
  have hstart : openCourse task = _ :=
    congrArg (fun t : Turn => Course.mk t.session (t.intents.map fun i => (_, i))) hbegun
  have hnext : ∀ event s s' said intents used, (∀ task network, event ≠ .begin task network) →
      handle env event s table' = ⟨s', table', intents, used, false⟩ →
      (∃ ms, ((openCourse task).run ms).sender = s ∧ ((openCourse task).run ms).said.map Prod.snd = said) →
        ∃ ms, ((openCourse task).run ms).sender = s' ∧
          ((openCourse task).run ms).said.map Prod.snd = said ++ intents := by
    rintro event _ s' _ intents used - hturn ⟨ms, rfl, rfl⟩
    refine ⟨ms ++ [⟨env, event, table'⟩], ?_⟩
    rw [Course.run_append_singleton, Course.next, hturn]
    exact ⟨rfl, by simp [List.map_map, Function.comp_def]⟩
  obtain ⟨s, said, announcement, ⟨ms, -, hsaid⟩, -, -, -, hsend⟩ :=
    exists_announced (S := settings) (R := settings) table' (cooperates_ideal []) rfl
      (settled_plain _ env rfl fun _ => rfl) (by decide) ⟨[], by rw [hstart]; rfl, by rw [hstart]; rfl⟩ hnext
  have hmem : .send announcement ∈ ((openCourse task).run ms).said.map Prod.snd := by
    rw [hsaid]
    exact List.mem_append_right _ List.mem_cons_self
  obtain ⟨⟨m, _⟩, hmem, rfl⟩ := List.mem_map.1 hmem
  obtain ⟨hcarries, -⟩ := Channel.carries_sendAction hsend
  exact ⟨ms, m, announcement, hmem, hcarries.hasHeader (isReadable_announcement _)⟩

/-- A task of two files that fill the 64 bits. -/
def filling : SharedTask :=
  { id := "t"
    files := [.ofBytes "a.txt" "text/plain" [97], .ofPath "b.iso" 18446744073709551614 "application/x-cd-image" "/b"] }

/-- The greatest size is announced as it is. -/
theorem announced_exactly_filling :
    filling.files.length < UInt32.size ∧
      ∃ request : SendRequest, request.Tells filling ∧ request.totalSize.toNat = 18446744073709551615 ∧
        ∃ ms m bytes, (m, .send bytes) ∈ ((openCourse filling).run ms).said ∧
          Frame.Carries m.env.provider .action 1 .sendRequest (Json.Record.toJson request) bytes := by
  have hfew : filling.files.length < UInt32.size := by decide
  obtain ⟨request?, hnone, -, htold⟩ := announced_exactly_or_crashed { deviceName := "left", encryption := false } "s"
    (idealSurroundings []) (.plain "ssid" "psk" "mac" 8443) { grace := 0, lifetime := 0 } hfew
  obtain ⟨request, hrequest⟩ : ∃ request, request? = some request := by
    rw [← Option.ne_none_iff_exists', ne_eq, hnone]
    decide
  obtain ⟨htells, hsent⟩ := htold request hrequest
  obtain ⟨ms, m, bytes, hmem, hheader⟩ := exists_announcing filling rfl
  exact ⟨hfew, request, htells, htells.totalSize, ms, m, bytes, hmem, hsent ms m bytes 1 hmem hheader⟩

/-- A task of two files with half of 2^64 bytes each. -/
def halves : SharedTask :=
  { id := "t"
    files := [.ofPath "a" 9223372036854775808 "text/plain" "/a", .ofPath "b" 9223372036854775808 "text/plain" "/b"] }

/-- A task of 2^64 bytes makes a sender crash: it is neither registered nor refused. -/
theorem crashed_halves :
    halves.files.length = 2 ∧ halves.byteCount = UInt64.size ∧
      let sender : Sender := { settings := { deviceName := "left", encryption := false }, id := "s" }
      let table : TaskTable := { grace := 0, lifetime := 0 }
      handle (idealSurroundings []) (.begin halves (.plain "ssid" "psk" "mac" 8443)) sender table =
        { session := sender, table, intents := [], crashed := true } :=
  ⟨rfl, rfl, rfl⟩

end DirectShare.Sender
