import Mathlib
import DirectShare.Proofs.Session.Handshake
import DirectShare.Proofs.Session.Lifecycle
import DirectShare.Proofs.Task.Lifecycle

/-!
# Senders that share a table

Any number of senders share a table of tasks with other clients. An entry is its owner's who has put it into the
table, but a sender knows its entry by the name of the task only. So a sender touches the entry of somebody else
only if its own one was taken out while it was working, and the name was used again.

An `Office` has senders and a table, with the owners of the entries, and a `Office.Deed` is an event of one of
the senders or a call of another client. `Sender.find?_handle_of_ne` says that a sender touches no entry but
the one that its job names. `Office.owner_or_loses` follows that entry through all deeds: it stays the
sender's, or the sender has lost it (`Office.Loses`), from which `Office.touches_own` follows.
-/

namespace DirectShare

open TaskTable (Call Entry)

/-! ### One sender -/

namespace Sender

variable {env : Surroundings} {s : Sender} {t : Turn} {table : TaskTable} {event : Event} {id : String} {e : Entry}
  {j : Job}

/-- A sender that fails leaves the entries of other tasks alone. -/
lemma find?_fail {failure : Failure} (h : ∀ j, t.session.job = some j → j.taskId ≠ id) :
    (fail env failure t).table.find? id = t.table.find? id := by
  simp only [fail]
  cases hj : t.session.job with
  | none => rfl
  | some j =>
    simp only
    cases hfinish : t.table.finish j.taskId .failed env.now with
    | error e => rfl
    | ok table' => exact (TaskTable.changes_finish hfinish).find?_of_ne rfl (h j hj).symm

/-- A sender that gives up leaves the entries of other tasks alone. -/
lemma find?_giveUp (h : ∀ j, t.session.job = some j → j.taskId ≠ id) :
    (giveUp t).table.find? id = t.table.find? id := by
  simp only [giveUp]
  cases hj : t.session.job with
  | none => rfl
  | some j => exact (TaskTable.find?_remove t.table j.taskId id).trans (if_neg (h j hj).symm)

/-- A sender touches no entry but the one that its job names. -/
theorem find?_handle_of_ne (h : ∀ j, s.job = some j → j.taskId ≠ id) (hfind : table.find? id = some e) :
    (handle env event s table).table.find? id = some e := by
  cases hs : s.stage.isTerminal with
  | true =>
    rw [handle_of_isTerminal hs]
    exact hfind
  | false =>
    have hturn := handle_answers env table hs event
    revert hturn
    generalize handle env event s table = t
    intro hturn
    cases hturn with
    | @began task network port totalSize table' hidle hport hsize hregister =>
      have hne : id ≠ task.id := by
        rintro rfl
        rw [TaskTable.find?_of_register hregister] at hfind
        cases hfind
      exact ((TaskTable.changes_register hregister).find?_of_ne rfl hne).trans hfind
    | authorized hsent hreceive hjob hrequest =>
      exact ((TaskTable.changes_request hrequest).find?_of_ne rfl (h _ hjob).symm).trans hfind
    | completed hstage hreceive hread hjob htask hack hreport hfinish =>
      exact ((TaskTable.changes_finish hfinish).find?_of_ne rfl (h _ hjob).symm).trans hfind
    | unannounced => exact (find?_fail h).trans hfind
    | reported => exact (find?_fail h).trans hfind
    | failed => exact (find?_fail h).trans hfind
    | gaveUp => exact (find?_giveUp h).trans hfind
    | _ => exact hfind

/-- A sender begins to work only on a task that is not in the table. -/
lemma find?_of_begun (hnone : s.job = none) (hj : (handle env event s table).session.job = some j) :
    table.find? j.taskId = none := by
  have hsame : s.job ≠ some j := by simp [hnone]
  cases hs : s.stage.isTerminal with
  | true =>
    rw [handle_of_isTerminal hs] at hj
    exact absurd hj hsame
  | false =>
    have hturn := handle_answers env table hs event
    revert hj hturn
    generalize handle env event s table = t
    intro hj hturn
    cases hturn with
    | began hidle hport hsize hregister =>
      cases hj
      exact TaskTable.find?_of_register hregister
    | _ => exact absurd hj hsame

end Sender

/-! ### Many senders -/

/-- Senders that share a table of tasks with other clients. -/
structure Office (ι : Type) where
  senders : ι → Sender
  table : TaskTable
  /-- Who has put the last entry of a name into the table: a sender, or another client. -/
  owner : String → Option ι

/-- An event of one of the senders, or a call of another client. -/
inductive Office.Deed (ι : Type) where
  | event (i : ι) (env : Surroundings) (event : Sender.Event)
  | call (call : Call)

namespace Office

variable {ι : Type}

/-- The owners after somebody has changed the table: the entries that were not in it before are theirs. -/
def owners (who : Option ι) (before after : TaskTable) (owner : String → Option ι) (id : String) : Option ι :=
  if (before.find? id).isNone ∧ (after.find? id).isSome then who else owner id

/-- An office before any session has begun, with a table that other clients have used. -/
def start (settings : ι → Settings) (ids : ι → String) (table : TaskTable) : Office ι where
  senders i := { settings := settings i, id := ids i }
  table := table
  owner _ := none

variable [DecidableEq ι]

/-- What a deed makes of the office. -/
def next (o : Office ι) : Deed ι → Office ι
  | .event i env event =>
    let t := (o.senders i).handle env event o.table
    { senders := Function.update o.senders i t.session
      table := t.table
      owner := owners (some i) o.table t.table o.owner }
  | .call call =>
    { senders := o.senders
      table := (call.run o.table).2
      owner := owners none o.table (call.run o.table).2 o.owner }

/-- What some deeds make of the office. -/
def run (o : Office ι) (deeds : List (Deed ι)) : Office ι := deeds.foldl next o

/-- The sender works on a task of the given name. -/
def Works (o : Office ι) (i : ι) (id : String) : Prop :=
  (o.senders i).stage.isTerminal = false ∧ ∃ j, (o.senders i).job = some j ∧ j.taskId = id

/-- At some moment the sender worked on a task of the given name, and the table had none. -/
def Loses (o : Office ι) (deeds : List (Deed ι)) (i : ι) (id : String) : Prop :=
  ∃ earlier, earlier <+: deeds ∧ (o.run earlier).Works i id ∧ (o.run earlier).table.find? id = none

variable {o : Office ι} {deeds : List (Deed ι)} {deed : Deed ι} {i : ι} {id : String} {e : Entry}

/-- An office goes on with one more deed. -/
lemma run_append_singleton : o.run (deeds ++ [deed]) = (o.run deeds).next deed := by
  rw [run, List.foldl_append]
  rfl

/-- A deed leaves every sender coherent. -/
lemma coherent_next (h : ∀ i, (o.senders i).Coherent) (deed : Deed ι) (i : ι) :
    ((o.next deed).senders i).Coherent := by
  cases deed with
  | call call => exact h i
  | event k env event =>
    by_cases hi : i = k
    · subst hi
      simp only [next, Function.update_self]
      exact (h i).handle
    · simp only [next, Function.update_of_ne hi]
      exact h i

/-- An entry that was in the table keeps its owner. -/
lemma owner_next (h : o.table.find? id ≠ none) (deed : Deed ι) : (o.next deed).owner id = o.owner id := by
  cases deed with
  | call call => exact if_neg fun hnew => h (Option.isNone_iff_eq_none.1 hnew.1)
  | event k env event => exact if_neg fun hnew => h (Option.isNone_iff_eq_none.1 hnew.1)

/-- A sender worked on its task before, or has just registered it. -/
lemma Works.of_next (hcoherent : (o.senders i).Coherent) (h : (o.next deed).Works i id) :
    o.Works i id ∨ o.table.find? id = none ∧
      ((o.next deed).table.find? id ≠ none → (o.next deed).owner id = some i) := by
  obtain ⟨hopen, j, hj, rfl⟩ := h
  cases deed with
  | call call => exact .inl ⟨hopen, j, hj, rfl⟩
  | event k env event =>
    by_cases hi : i = k
    · subst hi
      simp only [next, Function.update_self] at hopen hj
      cases hjob : (o.senders i).job with
      | none =>
        have hnone := Sender.find?_of_begun hjob hj
        refine .inr ⟨hnone, fun hsome => if_pos ⟨by rw [hnone]; rfl, Option.isSome_iff_ne_none.2 hsome⟩⟩
      | some j' =>
        have hkept : (Sender.handle env event (o.senders i) o.table).session.job = some j' :=
          hcoherent.job_handle hjob
        obtain rfl : j' = j := Option.some.inj (hkept.symm.trans hj)
        refine .inl ⟨?_, j', hjob, rfl⟩
        by_contra hterminal
        rw [Bool.not_eq_false] at hterminal
        rw [Sender.handle_of_isTerminal hterminal] at hopen
        exact absurd hterminal (by simp [hopen])
    · simp only [next, Function.update_of_ne hi] at hopen hj
      exact .inl ⟨hopen, j, hj, rfl⟩

variable {settings : ι → Settings} {ids : ι → String} {table : TaskTable}

/-- All deeds leave every sender coherent. -/
lemma coherent_run (deeds : List (Deed ι)) (i : ι) :
    (((start settings ids table).run deeds).senders i).Coherent := by
  induction deeds using List.reverseRecOn generalizing i with
  | nil => exact Sender.coherent_start (settings i) (ids i)
  | append_singleton deeds deed ih =>
    rw [run_append_singleton]
    exact coherent_next ih deed i

/-- The entry of the name that a sender works on is its own, unless its own one was taken out. -/
theorem owner_or_loses (h : ((start settings ids table).run deeds).Works i id)
    (hfind : ((start settings ids table).run deeds).table.find? id ≠ none) :
    ((start settings ids table).run deeds).owner id = some i ∨ (start settings ids table).Loses deeds i id := by
  induction deeds using List.reverseRecOn with
  | nil =>
    obtain ⟨-, j, hj, -⟩ := h
    cases hj
  | append_singleton deeds deed ih =>
    rw [run_append_singleton] at h hfind ⊢
    obtain hworks | ⟨-, howner⟩ := h.of_next (coherent_run deeds i)
    · by_cases hbefore : ((start settings ids table).run deeds).table.find? id = none
      · exact .inr ⟨deeds, List.prefix_append _ _, hworks, hbefore⟩
      · rw [owner_next hbefore]
        obtain howner | ⟨earlier, hearlier, hlost⟩ := ih hworks hbefore
        · exact .inl howner
        · exact .inr ⟨earlier, hearlier.trans (List.prefix_append _ _), hlost⟩
    · exact .inl (howner hfind)

/-- An event of a sender leaves every entry that somebody else has put into the table as it is, unless the sender
still works on a task of the same name, whose own entry was taken out while it was working. -/
theorem touches_own (settings : ι → Settings) (ids : ι → String) (table : TaskTable) (deeds : List (Deed ι))
    (i : ι) (env : Surroundings) (event : Sender.Event) (id : String) (e : Entry)
    (hfind : ((start settings ids table).run deeds).table.find? id = some e)
    (howner : ((start settings ids table).run deeds).owner id ≠ some i) :
    (((start settings ids table).run deeds).next (.event i env event)).table.find? id = some e ∨
      ((start settings ids table).run deeds).Works i id ∧ (start settings ids table).Loses deeds i id := by
  by_cases hworks : ((start settings ids table).run deeds).Works i id
  · obtain hown | hlost := owner_or_loses hworks (by simp [hfind])
    · exact absurd hown howner
    · exact .inr ⟨hworks, hlost⟩
  · left
    cases hs : (((start settings ids table).run deeds).senders i).stage.isTerminal with
    | true =>
      simp only [next]
      rw [Sender.handle_of_isTerminal hs]
      exact hfind
    | false => exact Sender.find?_handle_of_ne (fun j hj heq => hworks ⟨hs, j, hj, heq⟩) hfind

/-- Two sessions that share an empty table. -/
def pair : Office Bool :=
  start (fun _ => { deviceName := "left", encryption := false }) (fun _ => "s") { grace := 0, lifetime := 0 }

/-- A task with one file of the given name. -/
def sheet (name : String) : SharedTask := { id := "t", files := [.ofBytes name "text/plain" []] }

/-- One of them begins to work on a task. -/
def begins (i : Bool) (name : String) : Deed Bool :=
  .event i (Handshake.idealSurroundings []) (.begin (sheet name) (NetworkInfo.plain "ssid" "psk" "mac" 8443))

/-- A session that begins with a name which is taken fails, and the other task stays as it is. -/
theorem touches_own_duplicate :
    let o := pair.run [begins false "a"]
    ((o.next (begins true "b")).senders true).stage = .failed (.task (.duplicate "t")) ∧
      (o.next (begins true "b")).table.find? "t" = some ⟨sheet "a", .offered, 0, none⟩ := by
  intro o
  refine ⟨rfl, ?_⟩
  have hfind : o.table.find? "t" = some ⟨sheet "a", .offered, 0, none⟩ := rfl
  have howner : o.owner "t" ≠ some true := by decide
  obtain hsame | ⟨⟨-, j, hj, -⟩, -⟩ := touches_own _ _ _ [begins false "a"] true (Handshake.idealSurroundings [])
    (.begin (sheet "b") (NetworkInfo.plain "ssid" "psk" "mac" 8443)) "t" _ hfind howner
  · exact hsame
  · cases hj

/-- The name of a task that was taken out is used again. Then a session that still works on the first task ends the
second one, which is not its own, or takes it out. -/
theorem foreign_entry_touched :
    let o := pair.run [begins false "a", .call (.remove "t"), begins true "b"]
    o.table.find? "t" = some ⟨sheet "b", .offered, 0, none⟩ ∧ o.owner "t" = some true ∧
      (o.next (.event false (Handshake.idealSurroundings []) .timedOut)).table.find? "t" =
        some ⟨sheet "b", .ended .failed, 0, some 0⟩ ∧
      (o.next (.event false (Handshake.idealSurroundings []) .abort)).table.find? "t" = none :=
  ⟨rfl, rfl, rfl, rfl⟩

end Office

end DirectShare
