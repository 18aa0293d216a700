/-
The head of the page against the brandings that were cached.

Caching a branding is the only thing that touches the icon, and, apart
from navigations, the title. So along every trail without them the head is
read off the brandings cached on the way (`replay_head`): the title is the
name of the last one, and the icon the last logo among them. A branding
without a logo is passed over, and the icon of an earlier one stays
(`icon_outlives_logo`).

That something was cached at all is the other half: a task that loads or
sets the branding has done so when it ends (`titling`), and so has a load
of the listener (`Workload.Titles`).
-/
import SecurityConsole.Proofs.Branding.Signals
import SecurityConsole.Proofs.Job.Acts
import SecurityConsole.Proofs.Run.Promise

namespace SecurityConsole

open Console (brandingCall brandingOf loadBranding)

-- ============================================================== brandings

/-- There is always a name to show. -/
theorem SiteConfig.displayName_ne_empty (config : SiteConfig) :
    config.displayName ≠ "" := by
  unfold displayName
  by_cases h : config.siteName = ""
  · rw [if_pos h]
    decide
  · rw [if_neg h]
    exact h

/-- The branding that a happening caches. -/
def Happening.branding? : Happening → Option SiteConfig
  | .acted (.brand config) => some config
  | _ => none

/-- The brandings cached along a trail, the oldest first. -/
def brandings (hs : List Happening) : List SiteConfig :=
  hs.filterMap Happening.branding?

/-- The last logo among brandings. Those without one are passed over. -/
def lastLogo? (cs : List SiteConfig) : Option String :=
  ((cs.map SiteConfig.siteLogo).filter (· ≠ "")).getLast?

/-- An earlier branding counts only if none of the later ones has a
logo. -/
theorem lastLogo?_cons (config : SiteConfig) (cs : List SiteConfig) :
    lastLogo? (config :: cs)
      = (lastLogo? cs).or
          (if config.siteLogo = "" then none else some config.siteLogo) := by
  unfold lastLogo?
  rw [List.map_cons]
  by_cases h : config.siteLogo = ""
  · rw [List.filter_cons_of_neg (by simpa using h), if_pos h,
      Option.or_none]
  · rw [List.filter_cons_of_pos (by simpa using h), if_neg h,
      List.getLast?_cons]
    cases (List.filter (· ≠ "") (cs.map SiteConfig.siteLogo)).getLast? <;>
      rfl

/-- There is no last logo just if no branding has one. -/
theorem lastLogo?_eq_none_iff {cs : List SiteConfig} :
    lastLogo? cs = none ↔ ∀ config ∈ cs, config.siteLogo = "" := by
  unfold lastLogo?
  rw [List.getLast?_eq_none_iff, List.filter_eq_nil_iff]
  simp

/-- The logo of the last branding, if it has one. -/
theorem lastLogo?_of_getLast? {cs : List SiteConfig} {config : SiteConfig}
    (h : cs.getLast? = some config) (hlogo : config.siteLogo ≠ "") :
    lastLogo? cs = some config.siteLogo := by
  obtain ⟨before, rfl⟩ := List.getLast?_eq_some_iff.1 h
  unfold lastLogo?
  rw [List.map_append, List.filter_append, List.getLast?_append]
  simp [hlogo]

-- =================================================================== acts

/-- An act that leaves the title to the branding. -/
def Act.LeavesTitle : Act → Prop
  | .title _ => False
  | .establish .. | .refreshUser .. | .clear | .expire _ | .brand _
  | .visit _ | .listen | .load => True

namespace Console

/-- Caching a branding shows its name, and its logo if it has one. -/
theorem brand_head (c : Console) (config : SiteConfig) :
    (c.brand config).site = config
      ∧ (c.brand config).head.title = config.displayName
      ∧ (c.brand config).head.icon
        = if config.siteLogo = "" then c.head.icon
          else some config.siteLogo := by
  unfold brand
  by_cases h : config.siteLogo = ""
  · simp only [h, if_true]
    exact ⟨trivial, rfl, rfl⟩
  · simp only [h, if_false]
    exact ⟨trivial, rfl, rfl⟩

/-- Whether the page has a title. -/
def HasTitle (c : Console) : Prop := c.head.title ≠ ""

/-- So a title is shown then, whatever the branding says. -/
theorem brand_titled (c : Console) (config : SiteConfig) :
    (c.brand config).HasTitle := by
  unfold HasTitle
  rw [(c.brand_head config).2.1]
  exact config.displayName_ne_empty

end Console

namespace Happening

variable {x : Happening}

/-- A happening that caches a branding does just that. -/
theorem apply_of_branding {config : SiteConfig}
    (h : x.branding? = some config) (c : Console) :
    x.apply c = c.brand config := by
  cases x with
  | acted a =>
      cases a with
      | brand other =>
          cases h
          rfl
      | _ => cases h
  | _ => cases h

/-- What caches nothing leaves the branding and the head. -/
theorem apply_of_no_branding (h : x.branding? = none)
    (hx : ∀ a, x = .acted a → a.LeavesTitle) (c : Console) :
    (x.apply c).site = c.site ∧ (x.apply c).head = c.head := by
  cases x with
  | acted a =>
      have ha := hx a rfl
      cases a with
      | brand config => cases h
      | title text => exact ha.elim
      | listen =>
          obtain ⟨channel, hlisten⟩ := c.listen_eq
          show c.listen.site = c.site ∧ c.listen.head = c.head
          rw [hlisten]
          exact ⟨rfl, rfl⟩
      | _ => exact ⟨rfl, rfl⟩
  | sent s => exact ⟨rfl, rfl⟩
  | settled call token reply =>
      exact ⟨(c.settle_keeps call token reply).1,
        (c.settle_keeps call token reply).2.2⟩
  | signalled => exact ⟨rfl, rfl⟩
  | received =>
      cases hc : c.channel.bind Channel.receive? with
      | none =>
          simp only [apply, hc]
          exact ⟨trivial, trivial⟩
      | some channel =>
          simp only [apply, hc]
          exact ⟨trivial, trivial⟩

end Happening

/-- Branding and head at the end of a trail: the last branding, its name,
and the last logo. -/
theorem replay_head {hs : List Happening} :
    ∀ c : Console, ActsIn Act.LeavesTitle hs →
      (replay c hs).site = (brandings hs).getLast?.getD c.site
        ∧ (replay c hs).head.title
          = ((brandings hs).getLast?.map SiteConfig.displayName).getD
              c.head.title
        ∧ (replay c hs).head.icon
          = (lastLogo? (brandings hs)).or c.head.icon := by
  induction hs with
  | nil => intro c _; exact ⟨rfl, rfl, rfl⟩
  | cons x hs ih =>
      intro c hacts
      obtain ⟨hsite, htitle, hicon⟩ := ih (x.apply c) fun a ha =>
        hacts a (List.mem_cons_of_mem x ha)
      rw [replay_cons, hsite, htitle, hicon]
      cases hb : x.branding? with
      | none =>
          have hx : ∀ a, x = .acted a → a.LeavesTitle := by
            rintro a rfl
            exact hacts a List.mem_cons_self
          obtain ⟨hsame, hhead⟩ := Happening.apply_of_no_branding hb hx c
          have hskip : brandings (x :: hs) = brandings hs :=
            List.filterMap_cons_none hb
          rw [hskip, hsame, hhead]
          exact ⟨rfl, rfl, rfl⟩
      | some config =>
          obtain ⟨hcached, hname, hlogo⟩ := c.brand_head config
          have hmore : brandings (x :: hs) = config :: brandings hs :=
            List.filterMap_cons_some hb
          rw [hmore, List.getLast?_cons, lastLogo?_cons,
            Happening.apply_of_branding hb, hcached, hname, hlogo]
          refine ⟨rfl, ?_, ?_⟩
          · cases (brandings hs).getLast? <;> rfl
          -- a branding without a logo leaves the icon to an earlier one
          · rw [Option.or_assoc]
            by_cases h : config.siteLogo = ""
            · rw [if_pos h, if_pos h]
              rfl
            · rw [if_neg h, if_neg h]
              rfl

/-- A title stays one along a trail that leaves titles to the branding. -/
theorem replay_titled {c : Console} {hs : List Happening}
    (hacts : ActsIn Act.LeavesTitle hs) (h : c.HasTitle) :
    (replay c hs).HasTitle := by
  unfold Console.HasTitle
  rw [(replay_head c hacts).2.1]
  cases (brandings hs).getLast? with
  | none => exact h
  | some config => exact config.displayName_ne_empty

-- ================================================================== tasks

namespace Task

/-- A task that leaves the title to the branding: all but navigations,
and acts that set it. -/
def LeavesTitle : Task → Prop
  | .guard _ | .navigate .. => False
  | .perform a => a.LeavesTitle
  | .send _ | .request .. | .countAssets _ | .login _ | .logout
  | .revalidate | .changePassword _ | .loadBranding | .initBranding => True

/-- A task that caches a branding. -/
def Brands : Task → Prop
  | .loadBranding | .initBranding | .perform (.brand _) => True
  | _ => False

end Task

namespace Job.Within

/-- A load caches what it is answered, and sets no title of a page. -/
theorem loadBranding : loadBranding.Within Act.LeavesTitle :=
  bind (call _) fun _ => bind (perform trivial) fun _ => .done ()

/-- Signing in establishes a session at most. -/
theorem login (creds : Credentials) :
    (Console.login creds).Within Act.LeavesTitle := by
  unfold Console.login
  cases creds.violations with
  | cons v vs => exact .done _
  | nil =>
      refine bind (call _) fun outcome => ?_
      cases outcome with
      | ok value => exact bind (perform trivial) fun _ => .done _
      | error e => exact .done _

/-- Checking a token refreshes the user or ends the session. -/
theorem revalidate : Console.revalidate.Within Act.LeavesTitle := by
  refine bind (.read fun c => .done c.session.token?) fun token => ?_
  cases token with
  | none => exact .done ()
  | some token =>
      refine bind (call _) fun outcome => ?_
      cases outcome with
      | ok value => exact bind (perform trivial) fun _ => .done ()
      | error e => exact bind (perform trivial) fun _ => .done ()

/-- No task but a navigation sets the title of a page. -/
theorem task {t : Task} (h : t.LeavesTitle) :
    t.job.Within Act.LeavesTitle := by
  refine bind ?_ fun r => .done _
  cases t with
  | send c => exact call c
  | request e a =>
      show (Console.request e a).Within _
      unfold Console.request
      cases Console.bodyViolations e a with
      | nil => exact call _
      | cons v vs => exact .done _
  | countAssets host => exact .calls fun as => .done _
  | login creds => exact login creds
  | logout =>
      exact bind (call _) fun _ => bind (perform trivial) fun _ => .done ()
  | revalidate => exact revalidate
  | changePassword p =>
      show (Console.changePassword p).Within _
      unfold Console.changePassword
      cases p.violations with
      | nil => exact call _
      | cons v vs => exact .done _
  | loadBranding => exact loadBranding
  | initBranding => exact bind (perform trivial) fun _ => loadBranding
  | guard route => exact h.elim
  | navigate table loader location => exact h.elim
  | perform a => exact perform h

end Job.Within

/-- The title is set when a load of the branding ends. -/
theorem loadBranding_titles (x : Cause) (c : Console) :
    loadBranding.Ensures Anyhow Unasked (fun _ c _ => c.HasTitle) x c := by
  rw [loadBranding_eq]
  exact .call (fun _ _ => ⟨trivial, fun _ d _ => Console.brand_titled _ _⟩)
    fun _ => Console.brand_titled _ _

/-- A task that caches a branding shows a title when it ends. Before the
load, listening only opens the channel. -/
theorem Task.Brands.titles {t : Task} (h : t.Brands) (x : Cause)
    (c : Console) :
    t.body.Ensures Anyhow Unasked (fun _ c _ => c.HasTitle) x c := by
  cases t with
  | loadBranding => exact loadBranding_titles x c
  | initBranding => exact Job.Ensures.bind (loadBranding_titles x _)
  | perform a =>
      cases a with
      | brand config => exact c.brand_titled config
      | _ => exact h.elim
  | _ => exact h.elim

/-- A load by the listener has nothing to keep. -/
theorem loadBranding_unasked (c : Console) :
    loadBranding.Ensures Anyhow Unasked (fun x c _ => Unasked x c)
      (.begun c) c :=
  loadBranding.ensures_nothing _ c

/-- Tasks that cache a branding have set the title when they end. -/
def titling : Promise where
  waiting _ := Unasked
  ended t _ c report := report.task = t ∧ (t.Brands → c.HasTitle)
  loading := Unasked
  task t c := by
    refine Job.Ensures.bind ?_
    by_cases h : t.Brands
    · exact (h.titles _ c).mono fun _ _ _ htitle => ⟨rfl, fun _ => htitle⟩
    · exact (t.body.ensures_nothing _ c).mono fun _ _ _ _ =>
        ⟨rfl, fun hbrands => absurd hbrands h⟩
  load := loadBranding_unasked

-- =================================================================== runs

/-- A move that leaves the title to the branding. -/
def Move.LeavesTitle : Move → Prop
  | .begin _ task => task.LeavesTitle
  | .reply .. | .signal | .listen | .collect => True

/-- Moves of such tasks keep to acts that leave the title to the
branding. -/
theorem Move.LeavesTitle.within {m : Move} (h : m.LeavesTitle) :
    m.Within Act.LeavesTitle := by
  cases m with
  | begin name task => exact Job.Within.task h
  | _ => exact h

namespace Workload

section
variable {α : Type} {w v : Workload α} {hs : List Happening}

/-- Happenings that leave the title to the branding leave one behind
that was there. -/
theorem Leads.titled (h : Leads w hs v) (hacts : ActsIn Act.LeavesTitle hs)
    (htitled : w.console.HasTitle) : v.console.HasTitle := by
  rw [h.console]
  exact replay_titled hacts htitled

-- =============================================================== listening

/-- A listener that is idle behind a signal it has received has set the
title: its load was lost at once, and the default cached. -/
theorem received_titled {channel : Channel}
    (hidle : (w.received channel).reload = none) :
    (w.received channel).console.HasTitle := by
  cases hr : Console.request? { w.console with channel := some channel }
      brandingCall with
  | some request =>
      rw [(received_of_some hr).2.1] at hidle
      cases hidle
  | none =>
      unfold received
      rw [(loadBranding_of_none hr w.next).1]
      exact Console.brand_titled _ _

/-- One look of the listener that receives a signal and leaves the
listener idle: the load was lost, and the title set. -/
theorem listenOnce_titled (hidle : w.listenOnce.reload = none)
    (h : .received ∈ w.listenOnceTrail) : w.listenOnce.console.HasTitle := by
  have hstays : w.listenOnceTrail = [] → w.listenOnce.console.HasTitle := by
    intro htrail
    rw [htrail] at h
    cases h
  cases hr : w.reload with
  | some p => exact hstays (listenOnce_of_busy hr).2
  | none =>
      cases hc : w.console.channel.bind Channel.receive? with
      | none => exact hstays (listenOnce_of_nothing hc).2
      | some channel =>
          have hw : w.listenOnce = w.received channel := by
            unfold listenOnce
            rw [hr, hc]
            rfl
          rw [hw] at hidle ⊢
          exact received_titled hidle

/-- All its looks. The last one that received a signal has set the
title, and those behind it have found nothing, and left it. -/
theorem listen_titled (hw : w.Within Act.LeavesTitle)
    (hidle : w.listen.reload = none)
    (h : .received ∈ w.listenTrail w.backlog) : w.listen.console.HasTitle := by
  unfold listen at hidle ⊢
  generalize w.backlog = n at hidle h ⊢
  induction n with
  | zero => cases h
  | succ n ih =>
      have hidle : (n.repeat listenOnce w).listenOnce.reload = none := hidle
      show (n.repeat listenOnce w).listenOnce.console.HasTitle
      rcases List.mem_append.1 h with h | h
      · cases hr : (n.repeat listenOnce w).reload with
        | some p =>
            rw [(listenOnce_of_busy hr).1, hr] at hidle
            cases hidle
        -- idle before the last look: the title is there, and the look
        -- leaves it
        | none =>
            have hwithin := (listenFor_within .loadBranding hw n).1
            exact (listenOnce_leads _).titled
              (listenOnce_within .loadBranding hwithin).2 (ih hr h)
      · exact listenOnce_titled hidle h

end

-- ==================================================================== ended

variable {w : Workload Report} {hs : List Happening} {m : Move}

/-- Tasks that cache a branding set the title before they end, and the
listener before it is idle again. -/
structure Titles (w : Workload Report) (hs : List Happening) : Prop where
  tasks : ∀ name report, (name, .ended report) ∈ w.jobs →
    report.task.Brands → w.console.HasTitle
  listener : .received ∈ hs → w.reload = none → w.console.HasTitle

/-- A task that ends with a move has just set the title; one that had
ended before had set it then. -/
theorem tasks_titled (hkeeps : w.Keeps titling)
    (hstays : w.console.HasTitle → (w.step m).console.HasTitle)
    (h : w.Titles hs) {name : String} {report : Report}
    (hended : (name, .ended report) ∈ (w.step m).jobs)
    (hbrands : report.task.Brands) : (w.step m).console.HasTitle := by
  have hold : (name, .ended report) ∈ w.jobs →
      (w.step m).console.HasTitle :=
    fun hmem => hstays (h.tasks name report hmem hbrands)
  cases m with
  | begin other t =>
      rcases mem_begin hended with hmem | hnew
      · exact hold hmem
      · have hjob := begin_ensures titling w other t
        rw [← (Prod.mk.inj hnew).2] at hjob
        cases hjob with
        | ended hended =>
            obtain ⟨rfl, htitled⟩ := hended
            exact htitled hbrands
  | reply number reply =>
      have hended : (name, .ended report) ∈ (w.deliver number reply).jobs :=
        hended
      rcases reply_cases hkeeps number reply with
        ⟨p, s, -, -, -, -, hd⟩
          | ⟨before, other, p, behind, t, s, hjobs, -, -, rfl, hjob, hd⟩
          | ⟨-, hj, -⟩
      -- the reply is for the listener, which leaves the tasks
      · rw [hd, listen_jobs] at hended
        exact hold hended
      · rw [hd] at hended
        rcases mem_handed hjobs hended with hmem | hnew
        · exact hold hmem
        · rw [← (Prod.mk.inj hnew).2] at hjob
          cases hjob with
          | ended hended =>
              obtain ⟨rfl, htitled⟩ := hended
              show (w.deliver s.number reply).console.HasTitle
              rw [hd]
              exact htitled hbrands
      -- nobody waits for it
      · rw [hj] at hended
        exact hold hended
  | signal => exact hold hended
  | listen =>
      have hended : (name, .ended report) ∈ w.listen.jobs := hended
      rw [listen_jobs] at hended
      exact hold hended
  | collect => exact hold (List.mem_filter.1 hended).1

/-- The listener sets the title with the reply to its load, or at once if
that is lost. -/
theorem listener_titled (hloads : w.Loads)
    (hwithin : w.Within Act.LeavesTitle)
    (hstays : w.console.HasTitle → (w.step m).console.HasTitle)
    (h : w.Titles hs) (hreceived : .received ∈ hs ++ w.stepTrail m)
    (hidle : (w.step m).reload = none) : (w.step m).console.HasTitle := by
  -- nothing is received by the jobs, and they leave the listener alone
  have hown : (∀ x ∈ w.stepTrail m, x.Own) →
      (w.step m).reload = w.reload → (w.step m).console.HasTitle := by
    intro hown hreload
    rw [hreload] at hidle
    rcases List.mem_append.1 hreceived with hmem | hmem
    · exact hstays (h.listener hmem hidle)
    · exact absurd rfl (hown _ hmem).ne_received
  cases m with
  | begin name t => exact hown (t.job.trail_own w.next w.console) rfl
  | signal =>
      rcases List.mem_append.1 hreceived with hmem | hmem
      · exact h.listener hmem hidle
      · cases List.mem_singleton.1 hmem
  | collect => exact hown (fun _ hx => absurd hx List.not_mem_nil) rfl
  | listen =>
      rcases List.mem_append.1 hreceived with hmem | hmem
      · cases hr : w.reload with
        | none => exact hstays (h.listener hmem hr)
        | some p =>
            have hidle : w.listen.reload = none := hidle
            rw [(listen_of_busy hr).1, hr] at hidle
            cases hidle
      · exact listen_titled hwithin hidle hmem
  | reply number reply =>
      rcases hloads.deliver_cases number reply with
        ⟨request, hr, hd, -⟩ | ⟨before, name, p, behind, -, -, hd, ht⟩
          | ⟨-, -, hreload, -, ht⟩
      · obtain ⟨hcached, hnone, hjobs⟩ := w.reloaded_eq number request reply
        have hnext : (w.reloaded (loading number request) number
            reply).Within Act.LeavesTitle := by
          refine ⟨?_, ?_⟩
          · rw [hjobs]
            exact hwithin.jobs
          · rw [hnone]
            exact nofun
        show (w.deliver number reply).console.HasTitle
        rw [hd]
        refine (listen_leads _).titled
          (listen_within .loadBranding hnext).2 ?_
        rw [hcached]
        exact Console.brand_titled _ _
      · refine hown ?_ ?_
        · show ∀ x ∈ w.deliverTrail number reply, x.Own
          rw [ht]
          exact p.deliverTrail_own w.next number reply w.console
        · show (w.deliver number reply).reload = _
          rw [hd]
          rfl
      · refine hown ?_ hreload
        show ∀ x ∈ w.deliverTrail number reply, x.Own
        rw [ht]
        exact fun _ hx => absurd hx List.not_mem_nil

/-- One move: tasks and listener, each as above. -/
theorem step_titles (hkeeps : w.Keeps titling) (hloads : w.Loads)
    (hwithin : w.Within Act.LeavesTitle) (h : w.Titles hs)
    (hm : m.LeavesTitle) : (w.step m).Titles (hs ++ w.stepTrail m) := by
  have hacts := (step_within .loadBranding hwithin hm.within).2
  have hstays := (step_leads w m).titled hacts
  exact ⟨fun _ _ => tasks_titled hkeeps hstays h,
    listener_titled hloads hwithin hstays h⟩

/-- In a run that leaves the title to the branding, whatever caches a
branding has set the title. -/
theorem run_titles (ms : List Move) : ∀ {w : Workload Report}
    {hs : List Happening}, w.Keeps titling → w.Loads →
    w.Within Act.LeavesTitle → w.Titles hs → (∀ m ∈ ms, m.LeavesTitle) →
    (w.run ms).Titles (hs ++ w.trail ms) := by
  induction ms with
  | nil =>
      intro w hs _ _ _ h _
      show w.Titles (hs ++ [])
      rw [List.append_nil]
      exact h
  | cons m ms ih =>
      intro w hs hkeeps hloads hwithin h hms
      have hm := hms m List.mem_cons_self
      have hrest := ih (step_keeps hkeeps m) (step_loads hloads m)
        (step_within .loadBranding hwithin hm.within).1
        (step_titles hkeeps hloads hwithin h hm)
        fun n hn => hms n (List.mem_cons_of_mem m hn)
      rw [List.append_assoc] at hrest
      exact hrest

/-- Before anything happens, nothing has ended or was received. -/
theorem fresh_titles (baseUrl : String) (storage : Storage) :
    (Console.fresh baseUrl storage).Titles [] :=
  ⟨fun _ _ h => absurd h List.not_mem_nil,
    fun h => absurd h List.not_mem_nil⟩

-- ================================================================== heads

/-- Something that caches a branding is over: such a task has ended, or
the listener has received a signal and is idle again. -/
inductive HasBranded (w : Workload Report) (hs : List Happening) : Prop where
  | task {name : String} {report : Report}
      (h : (name, .ended report) ∈ w.jobs) (hbrands : report.task.Brands)
  | listener (h : .received ∈ hs) (hidle : w.reload = none)

section
variable (baseUrl : String) (storage : Storage) {ms : List Move}

/-- All that is done in such a run leaves the title to the branding. -/
theorem run_leavesTitle (hms : ∀ m ∈ ms, m.LeavesTitle) :
    ActsIn Act.LeavesTitle ((Console.fresh baseUrl storage).trail ms) :=
  (run_within .loadBranding ms (fresh_within baseUrl storage)
    fun m hm => (hms m hm).within).2

/-- Something was cached if a task or a load that caches is over: it has
set a title, and a new console has none. -/
theorem brandings_of_hasBranded (hms : ∀ m ∈ ms, m.LeavesTitle)
    (h : ((Console.fresh baseUrl storage).run ms).HasBranded
      ((Console.fresh baseUrl storage).trail ms)) :
    brandings ((Console.fresh baseUrl storage).trail ms) ≠ [] := by
  have htitles := run_titles ms (run_keeps titling baseUrl storage [])
    (run_loads baseUrl storage []) (fresh_within baseUrl storage)
    (fresh_titles baseUrl storage) hms
  have hacts := run_leavesTitle baseUrl storage hms
  have htitled :
      ((Console.fresh baseUrl storage).run ms).console.HasTitle := by
    cases h with
    | task h hbrands => exact htitles.tasks _ _ h hbrands
    | listener h hidle => exact htitles.listener h hidle
  intro hnone
  unfold Console.HasTitle at htitled
  rw [run_replay, (replay_head _ hacts).2.1, hnone] at htitled
  exact htitled rfl

/-- Title and icon of a console that has cached brandings, and left the
title to them. -/
structure ShowsLast (c : Console) (cached : List SiteConfig) : Prop where
  site : c.site = cached.getLast?.getD .default
  title : cached ≠ [] →
    c.head.title = c.site.displayName ∧ c.head.title ≠ ""
  icon : c.head.icon = lastLogo? cached

/-- What a run shows in the end is read off its trail. -/
theorem run_showsLast (hms : ∀ m ∈ ms, m.LeavesTitle) :
    ShowsLast ((Console.fresh baseUrl storage).run ms).console
      (brandings ((Console.fresh baseUrl storage).trail ms)) := by
  obtain ⟨hsite, htitle, hicon⟩ := replay_head
    (Console.fresh baseUrl storage).console
    (run_leavesTitle baseUrl storage hms)
  rw [← run_replay] at hsite htitle hicon
  refine ⟨hsite, fun hne => ?_, hicon.trans Option.or_none⟩
  obtain ⟨config, hlast⟩ :=
    Option.isSome_iff_exists.1 (List.getLast?_isSome.2 hne)
  rw [hlast] at hsite htitle
  rw [htitle, hsite]
  exact ⟨rfl, config.displayName_ne_empty⟩

end

/-- The logo that is cached is shown. -/
theorem ShowsLast.icon_of_logo {c : Console} {cached : List SiteConfig}
    (h : ShowsLast c cached) (hlogo : c.site.siteLogo ≠ "") :
    c.head.icon = some c.site.siteLogo := by
  rw [h.icon]
  cases hlast : cached.getLast? with
  | none =>
      have hsite := h.site
      rw [hlast] at hsite
      rw [hsite] at hlogo
      exact absurd rfl hlogo
  | some config =>
      have hsite := h.site
      rw [hlast] at hsite
      rw [hsite] at hlogo ⊢
      exact lastLogo?_of_getLast? hlast hlogo

/-- The head follows the branding, whatever loads, sets and reloads it, in
any order and with any replies, as long as nobody navigates: with the
title always, and with the icon as long as there is a logo. Without one,
the icon is the last logo that there was. -/
theorem head_follows_branding (baseUrl : String) (storage : Storage)
    {ms : List Move} (hms : ∀ m ∈ ms, m.LeavesTitle) :
    let first := Console.fresh baseUrl storage
    let c := (first.run ms).console
    let cached := brandings (first.trail ms)
    -- something is cached once a load, an update, or a reload of the
    -- listener is over
    (∀ before, before <+: ms →
        (first.run before).HasBranded (first.trail before) → cached ≠ [])
      ∧ c.site = cached.getLast?.getD .default
      ∧ (cached ≠ [] →
        c.head.title = c.site.displayName ∧ c.head.title ≠ "")
      ∧ c.head.icon = lastLogo? cached
      ∧ (c.site.siteLogo ≠ "" → c.head.icon = some c.site.siteLogo)
      ∧ (c.head.icon = none ↔ ∀ config ∈ cached, config.siteLogo = "")
      -- another history that ends with the same branding shows the same
      ∧ (∀ url stored ns, (∀ m ∈ ns, m.LeavesTitle) →
        let other := Console.fresh url stored
        let d := (other.run ns).console
        cached ≠ [] → brandings (other.trail ns) ≠ [] → d.site = c.site →
          d.head.title = c.head.title
            ∧ (c.site.siteLogo ≠ "" → d.head.icon = c.head.icon)) := by
  intro first c cached
  have hlast : ShowsLast c cached := run_showsLast baseUrl storage hms
  refine ⟨?_, hlast.site, hlast.title, hlast.icon, hlast.icon_of_logo, ?_,
    ?_⟩
  · rintro before ⟨behind, rfl⟩ hbranded hnone
    have hbefore := brandings_of_hasBranded baseUrl storage
      (fun m hm => hms m (List.mem_append_left _ hm)) hbranded
    have hall : brandings (first.trail (before ++ behind)) = [] := hnone
    unfold brandings at hall
    rw [trail_append, List.filterMap_append, List.append_eq_nil_iff] at hall
    exact hbefore hall.1
  · rw [hlast.icon]
    exact lastLogo?_eq_none_iff
  · intro url stored ns hns other d hc hd hsite
    have hother : ShowsLast d (brandings (other.trail ns)) :=
      run_showsLast url stored hns
    refine ⟨?_, fun hlogo => ?_⟩
    · rw [(hother.title hd).1, (hlast.title hc).1, hsite]
    · rw [hlast.icon_of_logo hlogo, hother.icon_of_logo (hsite ▸ hlogo),
        hsite]

/-- The branding cannot be loaded. -/
def failedLoad : List Move := [.begin "load" .loadBranding, .reply 0 .lost]

/-- It is set, with a logo, before that. -/
def updateAndFailedLoad : List Move :=
  .begin "update" (.perform (.brand ⟨"Acme", "/logo.png", "", ""⟩))
    :: failedLoad

/-- The default branding has no logo. It is shown with the icon of an
earlier branding, or without an icon, if there was none. -/
theorem icon_outlives_logo :
    let first := Console.fresh "http://localhost" (.memory [])
    let c := (first.run updateAndFailedLoad).console
    let d := (first.run failedLoad).console
    c.site = .default ∧ d.site = .default ∧ SiteConfig.default.siteLogo = ""
      ∧ c.head = ⟨SiteConfig.defaultName, some "/logo.png"⟩
      ∧ d.head = ⟨SiteConfig.defaultName, none⟩ := by
  decide +kernel

/-- A branding with a logo and then the default: the icon is the logo of
the first. -/
theorem head_of_update_and_failed_load :
    (∀ m ∈ updateAndFailedLoad, m.LeavesTitle)
      ∧ brandings ((Console.fresh "http://localhost" (.memory [])).trail
          updateAndFailedLoad)
        = [⟨"Acme", "/logo.png", "", ""⟩, .default]
      ∧ ((Console.fresh "http://localhost" (.memory [])).run
          updateAndFailedLoad).console.head.icon
        = lastLogo? [⟨"Acme", "/logo.png", "", ""⟩, .default] := by
  have hms : ∀ m ∈ updateAndFailedLoad, m.LeavesTitle := by
    intro m hm
    simp only [updateAndFailedLoad, failedLoad, List.mem_cons,
      List.not_mem_nil, or_false] at hm
    rcases hm with rfl | rfl | rfl
    all_goals exact trivial
  have hcached : brandings ((Console.fresh "http://localhost"
      (.memory [])).trail updateAndFailedLoad)
        = [⟨"Acme", "/logo.png", "", ""⟩, .default] := by decide +kernel
  obtain ⟨-, -, -, hicon, -⟩ :=
    head_follows_branding "http://localhost" (.memory []) hms
  rw [hcached] at hicon
  exact ⟨hms, hcached, hicon⟩

end Workload
end SecurityConsole
