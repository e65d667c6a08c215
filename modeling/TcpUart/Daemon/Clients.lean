import TcpUart.Daemon.Directory

/-! # Every client has one request at most
`handle_stream` reads a request, puts it on the event channel, waits for the response and writes it
before it reads on. The responses carry no number: that a client is given the answer to its own
request rests on this, and on the main loop, which answers what it took.

* `Turn` — what the main loop does in a step, seen from the clients.
* `ClientStep` — what a step of the daemon is to one client.
* `Waits` — a client that waits has one request on the event channel or with the main loop, and the
  others have none. -/

namespace TcpUart

open Reactive

/-- The request in an event of client `c`. -/
def Event.requestOf (c : ClientId) (e : Event) : Option DaemonRequest :=
  match e.event with
  | .cliCommand req client => if client = c then some req else none
  | .connectionClosed _ => none

namespace Daemon

variable {d d' : Daemon} {i : DaemonInput} {out log : List DaemonObs} {c : ClientId}

/-- The requests of client `c` on the event channel. -/
def queued (d : Daemon) (c : ClientId) : List DaemonRequest :=
  d.events.items.filterMap fun x => x.2.requestOf c

/-- The request of client `c` that the main loop is in the middle of. -/
def inService (d : Daemon) (c : ClientId) : List DaemonRequest :=
  d.main.serving.toList.filterMap fun x => if x.1 = c then some x.2 else none

/-- The requests of client `c` that were sent and not answered. -/
def outstanding (d : Daemon) (c : ClientId) : List DaemonRequest := d.inService c ++ d.queued c

/-- The calls of client `c` that are complete in a step. -/
def completed (d : Daemon) (out : List DaemonObs) (c : ClientId) :
    List (DaemonRequest × DaemonResponse) :=
  callsOf c ((out.filterMap DaemonObs.mark).foldl Pairing.mark ⟨d.main.serving, []⟩).ops

/-- The calls of client `c` along a run. -/
def callsOfClient (log : List DaemonObs) (c : ClientId) : List (DaemonRequest × DaemonResponse) :=
  callsOf c (operations log).ops

/-- The calls of a client, step by step. -/
theorem callsOfClient_append (hp : (operations log).pending = d.main.serving) :
    callsOfClient (log ++ out) c = callsOfClient log c ++ d.completed out c := by
  unfold callsOfClient operations at *
  rw [List.filterMap_append, pairing_append]
  generalize hq : pairing (log.filterMap DaemonObs.mark) = q at hp ⊢
  obtain ⟨p, ops⟩ := q
  subst hp
  rw [foldl_mark, callsOf_append]
  rfl

/-! ## The turns of the main loop -/

/-- **What the main loop does in a step**: the events it takes, whom it answers, and what is
complete. -/
inductive Turn (d : Daemon) (out : List DaemonObs) (d' : Daemon) : Prop
  /-- It goes on with what it does. -/
  | on (hout : out.filterMap DaemonObs.mark = []) (hm : d'.main.serving = d.main.serving)
      (hc : d'.clients = d.clients) (he : d'.events.items = d.events.items)
  /-- It takes a request. -/
  | takes {n : Nat} {e : Event} {k : ClientId} {req : DaemonRequest}
      (hev : e.event = .cliCommand req k)
      (hout : out.filterMap DaemonObs.mark = [.call k req]) (hm : d.main.serving = none)
      (hm' : d'.main.serving = some (k, req)) (hc : d'.clients = d.clients)
      (he : d.events.items = (n, e) :: d'.events.items)
  /-- It answers the request it took. -/
  | answers {k : ClientId} {req : DaemonRequest} {resp : DaemonResponse}
      (hout : out.filterMap DaemonObs.mark = [.ret k resp])
      (hm : d.main.serving = some (k, req)) (hm' : d'.main.serving = none)
      (hc : d'.clients = d.clients.set k (.answering resp))
      (he : d'.events.items = d.events.items)
  /-- It takes a request and answers it. -/
  | both {n : Nat} {e : Event} {k : ClientId} {req : DaemonRequest} {resp : DaemonResponse}
      (hev : e.event = .cliCommand req k)
      (hout : out.filterMap DaemonObs.mark = [.call k req, .ret k resp])
      (hm : d.main.serving = none) (hm' : d'.main.serving = none)
      (hc : d'.clients = d.clients.set k (.answering resp))
      (he : d.events.items = (n, e) :: d'.events.items)
  /-- It takes the end of a connection. -/
  | ended {n : Nat} {e : Event} {name : String} (hev : e.event = .connectionClosed name)
      (hout : out.filterMap DaemonObs.mark = [.act name])
      (hm : d'.main.serving = d.main.serving) (hc : d'.clients = d.clients)
      (he : d.events.items = (n, e) :: d'.events.items)

/-- `State::list` goes on or answers. -/
theorem turn_listNext {rest : List Connection} {list : List ConnectionInfo} {client : ClientId}
    (hm : d.main.serving = some (client, .list)) :
    Turn d (d.listNext rest list client).2 (d.listNext rest list client).1 := by
  cases rest with
  | nil => exact .answers rfl hm rfl rfl rfl
  | cons conn rest => exact .on rfl hm.symm rfl rfl

/-- A reset is answered. -/
theorem turn_onCtlResult {name : String} {client : ClientId} {res : Option CtlReply}
    (hm : d.main.serving = some (client, .reset name)) :
    Turn d (d.onCtlResult name client res).2 (d.onCtlResult name client res).1 := by
  rw [onCtlResult_eq]
  exact .answers rfl hm rfl rfl rfl

/-- The marks of an event of a client, and of its response. -/
theorem marks_of_event {n : Nat} {e : Event} {req : DaemonRequest} {client : ClientId}
    (he : e.event = .cliCommand req client) (rest : List DaemonObs) :
    (DaemonObs.processed n e :: rest).filterMap DaemonObs.mark
      = .call client req :: rest.filterMap DaemonObs.mark := by
  simp [DaemonObs.mark, he]

/-- The mark of the end of a connection. -/
theorem marks_of_end {n : Nat} {e : Event} {name : String} (he : e.event = .connectionClosed name) :
    [DaemonObs.processed n e].filterMap DaemonObs.mark = [.act name] := by
  simp [DaemonObs.mark, he]

/-- **Every step of the main loop** is one of these turns. -/
theorem Step.turn (hi : i = .goOn ∨ ∃ pty, i = .recv pty) (hs : Step d i d' out) :
    Turn d out d' := by
  have hpop : ∀ {n : Nat} {e : Event} {events : NumberedQueue Event 128},
      d.events.pop = some ((n, e), events) → d.events.items = (n, e) :: events.items :=
    fun h => (NumberedQueue.items_of_pop h).1
  have hnone : d.main = .select → d.main.serving = none := congrArg MainPc.serving
  cases hs with
  | recvAdd hm hp he => exact .both he (marks_of_event he _) (hnone hm) rfl rfl (hpop hp)
  | recvAddRefused _ hm hp he => exact .both he (marks_of_event he _) (hnone hm) rfl rfl (hpop hp)
  | recvRemove hm hp he => exact .both he (marks_of_event he _) (hnone hm) rfl rfl (hpop hp)
  | recvRemoveNone hm hp he => exact .both he (marks_of_event he _) (hnone hm) rfl rfl (hpop hp)
  | @recvList n e events client pty hm hp he =>
      cases hconns : d.state.conns with
      | nil => exact .both he (marks_of_event he _) (hnone hm) rfl rfl (hpop hp)
      | cons conn rest => exact .takes he (marks_of_event he _) (hnone hm) rfl rfl (hpop hp)
  | recvReset hm hp he => exact .takes he (marks_of_event he _) (hnone hm) rfl rfl (hpop hp)
  | recvResetNone hm hp he => exact .both he (marks_of_event he _) (hnone hm) rfl rfl (hpop hp)
  | recvClosed hm hp he => exact .ended he (marks_of_end he) rfl rfl (hpop hp)
  | recvClosedNone hm hp he => exact .ended he (marks_of_end he) rfl rfl (hpop hp)
  | listGone hm => exact turn_listNext (congrArg MainPc.serving hm)
  | listAsk hm _ hreq =>
      obtain ⟨sp, q, -, -, rfl⟩ := request_some hreq
      exact .on rfl (congrArg MainPc.serving hm).symm rfl rfl
  | listTold hm => exact turn_listNext (congrArg MainPc.serving hm)
  | listDropped hm => exact turn_listNext (congrArg MainPc.serving hm)
  | ctlGone hm => exact turn_onCtlResult (congrArg MainPc.serving hm)
  | @ctlAsk name ctl conn client d₁ hm _ hreq =>
      obtain ⟨sp, q, -, -, rfl⟩ := request_some hreq
      exact .on rfl (congrArg MainPc.serving hm).symm rfl rfl
  | ctlTold hm => exact turn_onCtlResult (congrArg MainPc.serving hm)
  | ctlDropped hm => exact turn_onCtlResult (congrArg MainPc.serving hm)
  | _ =>
      rcases hi with hi | ⟨pty, hi⟩ <;> cases hi

/-! ## What a step is to one client -/

/-- **What a step is to client `c`**: how the request it has out and the await of its task change,
and what is complete. -/
inductive ClientStep (d : Daemon) (i : DaemonInput) (d' : Daemon) (out : List DaemonObs)
    (c : ClientId) : Prop
  /-- Nothing. -/
  | idle (ho : d'.outstanding c = d.outstanding c) (hc : d'.clients[c]? = d.clients[c]?)
      (hdone : d.completed out c = [])
      (hi : (∀ r, i ≠ .clientRead c r) ∧ ∀ ok, i ≠ .clientWritten c ok)
  /-- It connects. -/
  | joins (ho : d'.outstanding c = d.outstanding c) (hc : d.clients[c]? = none)
      (hc' : d'.clients[c]? = some .reading) (hdone : d.completed out c = [])
      (hi : i = .accept true)
  /-- Its request arrives, or it is gone. -/
  | reads (r : ClientRead) (hi : i = .clientRead c r) (ho : d'.outstanding c = d.outstanding c)
      (hc : d.clients[c]? = some .reading) (hc' : d'.clients[c]? = some (afterRead r))
      (hdone : d.completed out c = [])
  /-- Its request is put on the event channel. -/
  | sends {req : DaemonRequest} (hi : i = .clientSend c)
      (ho : d'.outstanding c = d.outstanding c ++ [req])
      (hc : d.clients[c]? = some (.sending req)) (hc' : d'.clients[c]? = some .awaiting)
      (hdone : d.completed out c = [])
  /-- It is answered. -/
  | answered {req : DaemonRequest} {resp : DaemonResponse}
      (ho : d.outstanding c = req :: d'.outstanding c)
      (hc' : d'.clients[c]? = d.clients[c]?.map fun _ => .answering resp)
      (hdone : d.completed out c = [(req, resp)])
      (hi : (∀ r, i ≠ .clientRead c r) ∧ ∀ ok, i ≠ .clientWritten c ok)
  /-- Its response is written, or cannot be. -/
  | written {resp : DaemonResponse} (ok : Bool) (hi : i = .clientWritten c ok)
      (ho : d'.outstanding c = d.outstanding c) (hc : d.clients[c]? = some (.answering resp))
      (hc' : d'.clients[c]? = some (if ok then .reading else .closed))
      (hdone : d.completed out c = [])

/-- A step in which nothing is complete. -/
theorem completed_of_silent (h : out.filterMap DaemonObs.mark = []) : d.completed out c = [] := by
  rw [completed, h]
  rfl

/-- Setting the await of one task, seen from a client. -/
theorem getElem?_set_client (l : List ClientPc) (k c : ClientId) (pc : ClientPc) :
    (l.set k pc)[c]? = if k = c then l[c]?.map (fun _ => pc) else l[c]? := by
  rw [List.getElem?_set]
  split
  · subst_vars
    split
    · rename_i hlt
      rw [List.getElem?_eq_getElem hlt, Option.map_some]
    · rename_i hge
      rw [List.getElem?_eq_none (Nat.not_lt.mp hge), Option.map_none]
  · rfl

/-- A turn of the main loop, seen from a client. -/
theorem Turn.clientStep (ht : Turn d out d')
    (hi : (∀ r, i ≠ .clientRead c r) ∧ ∀ ok, i ≠ .clientWritten c ok) :
    ClientStep d i d' out c := by
  cases ht with
  | on hout hm hc he =>
      refine .idle ?_ (by rw [hc]) (completed_of_silent hout) hi
      simp [outstanding, inService, queued, hm, he]
  | @takes n e k req hev hout hm hm' hc he =>
      refine .idle ?_ (by rw [hc]) ?_ hi
      · by_cases hk : k = c <;>
          simp [outstanding, inService, queued, Event.requestOf, hm, hm', he, hev, hk]
      · rw [completed, hout, hm]
        rfl
  | @answers k req resp hout hm hm' hc he =>
      by_cases hk : k = c
      · have hdone : d.completed out c = [(req, resp)] := by
          simp [completed, hout, hm, Pairing.mark, callsOf, hk]
        refine .answered ?_ (by rw [hc, getElem?_set_client, if_pos hk]) hdone hi
        simp [outstanding, inService, queued, hm, hm', he, hk]
      · refine .idle ?_ (by rw [hc, getElem?_set_client, if_neg hk]) ?_ hi
        · simp [outstanding, inService, queued, hm, hm', he, hk]
        · simp [completed, hout, hm, Pairing.mark, callsOf, hk]
  | @both n e k req resp hev hout hm hm' hc he =>
      by_cases hk : k = c
      · have hdone : d.completed out c = [(req, resp)] := by
          simp [completed, hout, hm, Pairing.mark, callsOf, hk]
        refine .answered ?_ (by rw [hc, getElem?_set_client, if_pos hk]) hdone hi
        simp [outstanding, inService, queued, Event.requestOf, hm, hm', he, hev, hk]
      · refine .idle ?_ (by rw [hc, getElem?_set_client, if_neg hk]) ?_ hi
        · simp [outstanding, inService, queued, Event.requestOf, hm, hm', he, hev, hk]
        · simp [completed, hout, hm, Pairing.mark, callsOf, hk]
  | @ended n e name hev hout hm hc he =>
      refine .idle ?_ (by rw [hc]) ?_ hi
      · simp [outstanding, inService, queued, Event.requestOf, hm, he, hev]
      · simp [completed, hout, Pairing.mark, callsOf]

/-- The requests of a client on the event channel, when something is put on it. -/
theorem queued_push {e : Event} {events : NumberedQueue Event 128}
    (hpush : d.events.push e = some events) (he : d'.events = events) :
    d'.queued c = d.queued c ++ (e.requestOf c).toList := by
  rw [queued, he, (NumberedQueue.items_of_push hpush).1, List.filterMap_append, queued]
  cases h : e.requestOf c <;> simp [h]

/-- **Every step of the daemon** is one of these to each client. -/
theorem Step.clientStep (hs : Step d i d' out) (c : ClientId) : ClientStep d i d' out c := by
  cases i with
  | goOn =>
      exact (hs.turn (.inl rfl)).clientStep
        ⟨fun _ => DaemonInput.noConfusion, fun _ => DaemonInput.noConfusion⟩
  | recv pty =>
      exact (hs.turn (.inr ⟨pty, rfl⟩)).clientStep
        ⟨fun _ => DaemonInput.noConfusion, fun _ => DaemonInput.noConfusion⟩
  | accept ok =>
      have hi : (∀ r, DaemonInput.accept ok ≠ .clientRead c r) ∧
          ∀ ok', DaemonInput.accept ok ≠ .clientWritten c ok' :=
        ⟨fun _ => DaemonInput.noConfusion, fun _ => DaemonInput.noConfusion⟩
      cases hs with
      | acceptFailed => exact .idle rfl rfl rfl hi
      | accept hm =>
          rcases Nat.lt_trichotomy c d.clients.length with hlt | heq | hgt
          · exact .idle rfl (by simp [List.getElem?_append_left hlt]) rfl hi
          · exact .joins rfl (by simp [heq]) (by simp [heq]) rfl rfl
          · refine .idle rfl ?_ rfl hi
            have hlen : (d.clients ++ [ClientPc.reading]).length ≤ c := by
              rw [List.length_append]
              exact hgt
            rw [List.getElem?_eq_none hlen, List.getElem?_eq_none (Nat.le_of_lt hgt)]
  | ctrlC =>
      cases hs with
      | ctrlC hm =>
          refine .idle ?_ rfl rfl
            ⟨fun _ => DaemonInput.noConfusion, fun _ => DaemonInput.noConfusion⟩
          simp [outstanding, inService, queued, hm, MainPc.serving]
  | clientRead k r =>
      cases hs with
      | clientRead r hk =>
          by_cases hc : k = c
          · subst hc
            exact .reads r rfl rfl hk (by simp [getElem?_set_client, hk]) rfl
          · refine .idle rfl (by simp [hc]) rfl
              ⟨?_, fun _ => DaemonInput.noConfusion⟩
            rintro r' ⟨⟩
            exact hc rfl
  | clientSend k =>
      cases hs with
      | @clientSend _ req events hk hpush =>
          have hq : ∀ c, Daemon.queued { d with
              events := events, clients := d.clients.set k .awaiting } c = _ :=
            fun c => queued_push (c := c) hpush rfl
          by_cases hc : k = c
          · subst hc
            refine .sends rfl ?_ hk (by simp [getElem?_set_client, hk]) rfl
            rw [outstanding, hq, outstanding]
            simp [Event.requestOf, inService]
          · refine .idle ?_ (by simp [hc]) rfl
              ⟨fun _ => DaemonInput.noConfusion, fun _ => DaemonInput.noConfusion⟩
            rw [outstanding, hq, outstanding]
            simp [Event.requestOf, inService, hc]
  | clientWritten k ok =>
      cases hs with
      | @clientWritten _ resp ok hk =>
          by_cases hc : k = c
          · subst hc
            exact .written ok rfl rfl hk (by simp [getElem?_set_client, hk]) rfl
          · refine .idle rfl (by simp [hc]) rfl
              ⟨fun _ => DaemonInput.noConfusion, ?_⟩
            rintro ok' ⟨⟩
            exact hc rfl
  | task k ti =>
      cases hs with
      | @task _ _ sp requests events t' out' hk hch hst =>
          refine .idle ?_ rfl ?_
            ⟨fun _ => DaemonInput.noConfusion, fun _ => DaemonInput.noConfusion⟩
          · cases channels_cases hch with
            | notified hpush =>
                rw [outstanding, queued_push hpush rfl, outstanding]
                simp [Event.requestOf, inService]
            | _ => rfl
          · refine completed_of_silent ?_
            rw [List.filterMap_map]
            exact List.filterMap_eq_nil_iff.mpr fun _ _ => rfl

/-! ## Who waits -/

/-- **A client that waits has one request out, and the others have none.** -/
def Waits (d : Daemon) : Prop :=
  ∀ c, (d.outstanding c).length = if d.clients[c]? = some .awaiting then 1 else 0

/-- After its request arrived a client does not wait yet. -/
theorem afterRead_ne_awaiting (r : ClientRead) : afterRead r ≠ .awaiting := by
  cases r <;> exact ClientPc.noConfusion

/-- Every step keeps this. -/
theorem Waits.step (h : d.Waits) (hs : Step d i d' out) : d'.Waits := by
  intro c
  have hc₀ := h c
  cases hs.clientStep c with
  | idle ho hc => rw [ho, hc, hc₀]
  | joins ho hc hc' => simp [ho, hc₀, hc, hc']
  | reads r _ ho hc hc' => simp [ho, hc₀, hc, hc', afterRead_ne_awaiting]
  | sends _ ho hc hc' =>
      rw [hc, if_neg (by simp)] at hc₀
      simp [ho, hc', hc₀]
  | @answered req resp ho hc' =>
      rw [ho, List.length_cons] at hc₀
      split at hc₀
      · rename_i hc
        rw [hc', hc, Option.map_some, if_neg (by simp)]
        omega
      · omega
  | written ok _ ho hc hc' =>
      cases ok <;> simp [ho, hc₀, hc, hc']

/-- Every client waits for one request at most, along every run. -/
theorem waits_of_run {ok : Daemon → DaemonInput → Prop} (h : machine.Run ok log d) : d.Waits := by
  refine h.invariant (P := fun _ d => d.Waits) ?_ ?_
  · intro c
    rfl
  · intro log d i d' out _ hw _ hs
    exact hw.step (step_cases hs)

/-- Who is answered was waiting, and has nothing else out. -/
theorem Waits.of_answered (h : d.Waits) {req : DaemonRequest} {rest : List DaemonRequest}
    (ho : d.outstanding c = req :: rest) : d.clients[c]? = some .awaiting ∧ rest = [] := by
  have hc := h c
  rw [ho, List.length_cons] at hc
  split at hc
  · rename_i hawait
    exact ⟨hawait, List.eq_nil_of_length_eq_zero (by omega)⟩
  · omega

end Daemon

end TcpUart
