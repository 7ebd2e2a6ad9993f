import TunnelSync.Proofs.Plan
import TunnelSync.Proofs.Sync.Fanout

/-!
# The shape of a sync

A sync that stops before its plan, or has nothing to plan for, calls no transport. Any other sync
makes one call for the whole source, whose result stands, or calls that share the entries among
them, and succeeds only if all of them do.

* `Syncer.SharedBy` : calls that share entries
* `Syncer.SingleCopy`, `Syncer.SharedCopies` : the two kinds of sync that copy something
* `Syncer.TrueReport` : what a report says of the calls
* `Syncer.sync_shape` : which syncs are of which kind, with their reports
-/

namespace TunnelSync.Syncer

/-- The entries that a sync finds. -/
def listing (h : Host) (r : Request) : Except SyncError (List Entry) :=
  Scan.list (Filter.withBuiltin r.options.exclude) h.programs.files h.programs.cwd r.localPath

/-- The files that the plan of a sync knows of. -/
def countedFiles (h : Host) (r : Request) : Nat :=
  if r.options.parallelism = 0 then
    Scan.count (Filter.withBuiltin r.options.exclude) h.programs.files h.programs.cwd r.localPath
  else 0

/-- How the transport of a sync ends a call. -/
def ending (s : Syncer) (h : Host) (r : Request) : Call → Ending Rsync.Output :=
  (s.choose h).transport.run h s.engine r

/-- Calls by so many workers, none of which has nothing to copy, and every entry is in one. -/
structure SharedBy (entries : List Entry) (degree : Nat) (calls : List Call) : Prop where
  workers : calls.map (·.worker) = (List.range degree).map (· + 1)
  parts : ∃ parts : List (List Entry),
    calls.map (·.selection) = parts.map .entries ∧ (∀ p ∈ parts, p ≠ []) ∧
      parts.flatten.Perm entries

/-- A sync that copies the whole source at once. Its result is that of the copy. -/
structure SingleCopy (s : Syncer) (h : Host) (r : Request) : Prop where
  made : (s.sync h r).calls = [((s.choose h).transport, ⟨1, .all⟩)]
  result : (s.sync h r).result =
    (outcome (s.ending h r ⟨1, .all⟩)).map (·.map (Report.ofStats · h.elapsed 1))

/-- A sync by copies that share the entries. In whatever order they run, they come to the result of
the sync, and to a result at all only when the transport has got each call. -/
structure SharedCopies (s : Syncer) (h : Host) (r : Request) (entries : List Entry) (degree : Nat)
    (calls : List Call) : Prop where
  made : (s.sync h r).calls = calls.map ((s.choose h).transport, ·)
  shared : SharedBy entries degree calls
  starts : (Fanout.start? calls).isSome = true
  run : ∀ actions st, Fanout.Run (s.ending h r) calls actions st → st.cancelled = h.cancelled →
    ∀ v, st.result = some v →
      (s.sync h r).result = v.map (·.map (Report.ofStats · h.elapsed degree)) ∧
        (v.isSome = true → st.called.Perm calls)

/-- A report that counts the calls of a sync, all of which have succeeded, and adds up what they have
moved. -/
structure TrueReport (s : Syncer) (h : Host) (r : Request) (report : Report) : Prop where
  chunks : report.chunks = (s.sync h r).calls.length
  parts : ∃ parts : List TransferStats,
    (s.sync h r).calls.map (fun c => outcome (c.1.run h s.engine r c.2)) =
        parts.map (fun p => some (.ok p)) ∧
      report.stats = .total parts
  fits : report.stats.Fits

/-! ### The plan -/

theorem job?_eq (e : Engine) (h : Host) (r : Request) :
    job? e h r =
      (Rsync.ensureAvailable e.rsync (h.probe e.rsync)).bind fun _ =>
        (listing h r).map fun entries =>
          (Plan.degree? (countedFiles h r) entries.length r.options.parallelism).map
            (⟨entries, ·⟩) := by
  unfold job?
  cases Rsync.ensureAvailable e.rsync (h.probe e.rsync) with
  | error => rfl
  | ok =>
      simp only [bind, Except.bind, listing, countedFiles]
      cases Scan.list (Filter.withBuiltin r.options.exclude) h.programs.files h.programs.cwd
        r.localPath <;> rfl

variable {j : Job}

theorem Job.sharedBy (hdegree : j.degree ≠ 1) (hpos : 1 ≤ j.degree)
    (hle : j.degree ≤ j.entries.length) : SharedBy j.entries j.degree j.calls := by
  have hcalls : j.calls =
      (Plan.split j.entries j.degree).map fun c => ⟨c.worker, .entries c.entries⟩ := if_neg hdegree
  refine ⟨?_, (Plan.split j.entries j.degree).map (·.entries), ?_, ?_, ?_⟩
  · have hworkers := Plan.map_worker_split j.entries j.degree
    rw [Nat.max_eq_left hpos, Nat.min_eq_left hle] at hworkers
    rw [hcalls, List.map_map]
    exact hworkers
  · rw [hcalls, List.map_map, List.map_map]
    rfl
  · intro p hp
    obtain ⟨c, hc, rfl⟩ := List.mem_map.mp hp
    exact Plan.entries_ne_nil hc
  · exact List.flatMap_def ▸ Plan.flatMap_split_perm j.entries j.degree

theorem SharedBy.length_eq {entries : List Entry} {degree : Nat} {calls : List Call}
    (h : SharedBy entries degree calls) : calls.length = degree := by
  have hlen := congrArg List.length h.workers
  simpa using hlen

/-! ### The result -/

variable {ending : Call → Ending Rsync.Output}

theorem eq_parse_of_classify {o : Rsync.Output} {stats : TransferStats}
    (h : Rsync.classify o = .ok stats) : stats = TransferStats.parse o.stdout := by
  simp only [Rsync.classify] at h
  split at h
  · exact (Except.ok.inj h).symm
  · split at h
    · exact (Except.ok.inj h).symm
    · cases h

theorem fits_of_outcome {output : Ending Rsync.Output} {stats : TransferStats}
    (h : outcome output = some (.ok stats)) : stats.Fits := by
  obtain ⟨result, rfl, hresult⟩ := Option.map_eq_some_iff.mp h
  cases result with
  | error e => cases hresult
  | ok o =>
      rw [eq_parse_of_classify hresult]
      exact TransferStats.fits_parse o.stdout

theorem map_outcome {calls : List Call} (h : ∀ c ∈ calls, ∀ e, ¬ Fanout.Fails ending c e) :
    calls.map (fun c => outcome (ending c)) =
      (calls.filterMap (Fanout.stats? ending)).map fun stats => some (.ok stats) := by
  induction calls with
  | nil => rfl
  | cons c calls ih =>
      have hrest := ih fun c' hc' => h c' (by simp [hc'])
      cases hc : outcome (ending c) with
      | none => exact absurd (.inr ⟨hc, rfl⟩) (h c (by simp) .noResult)
      | some result =>
          cases result with
          | error e => exact absurd (.inl hc) (h c (by simp) e)
          | ok stats =>
              have hstats : Fanout.stats? ending c = some stats := by simp [Fanout.stats?, hc]
              rw [List.map_cons, hc, List.filterMap_cons, hstats, List.map_cons, hrest]

theorem failures_of_verdict {t : Tally} {total : Nat} {cancelled : Bool} {stats : TransferStats}
    (h : t.verdict total cancelled = .ok stats) : t.failures = [] ∧ t.stats = stats := by
  unfold Tally.verdict at h
  split at h
  · cases h
  · split at h
    next hfailures => exact ⟨List.isEmpty_iff.mp hfailures, Except.ok.inj h⟩
    next => cases h

/-- A job succeeds only if every copy does, and its result is their sum. -/
theorem Job.exists_stats {h : Host} (horder : (h.order j.calls).Perm j.calls)
    {stats : TransferStats} (hr : j.result h ending = some (.ok stats)) :
    ∃ parts : List TransferStats,
      j.calls.map (fun c => outcome (ending c)) = parts.map (fun p => some (.ok p)) ∧
        stats = .total parts ∧ stats.Fits := by
  by_cases hdegree : j.degree = 1
  · have hcalls : j.calls = [⟨1, .all⟩] := if_pos hdegree
    have houtcome : outcome (ending ⟨1, .all⟩) = some (.ok stats) := by
      rwa [Job.result, if_pos hdegree] at hr
    refine ⟨[stats], ?_, by simp [TransferStats.total], fits_of_outcome houtcome⟩
    rw [hcalls, List.map_singleton, houtcome, List.map_singleton]
  · have harrivals := horder.filterMap (Fanout.arrival? ending)
    have hgather := Fanout.gather_eq (Fanout.nodup_workers hdegree) harrivals h.cancelled
    have hresult : j.result h ending = gather (j.calls.map (·.worker))
        ((h.order j.calls).filterMap (Fanout.arrival? ending)) h.cancelled := by
      rw [Job.result, if_neg hdegree]
      rfl
    rw [hresult, hgather] at hr
    obtain ⟨hfits, hverdict⟩ := Option.ite_none_right_eq_some.mp hr
    obtain ⟨hfailures, rfl⟩ := failures_of_verdict (Option.some.inj hverdict)
    refine ⟨_, map_outcome fun c hc e hfails => ?_, rfl, hfits⟩
    have hmem := Fanout.mem_failures_iff.mpr ⟨c, hc, rfl, hfails⟩
    rw [hfailures] at hmem
    cases hmem

/-! ### The whole sync -/

section
variable (s : Syncer) {h : Host} {r : Request}

theorem calls_sync (hj : job? s.engine h r = .ok (some j)) :
    (s.sync h r).calls = j.calls.map ((s.choose h).transport, ·) := by
  simp [sync, hj, carryOut]

theorem result_sync (hj : job? s.engine h r = .ok (some j)) :
    (s.sync h r).result =
      (j.result h (s.ending h r)).map (·.map (Report.ofStats · h.elapsed j.calls.length)) := by
  simp only [sync, hj, carryOut]
  rfl

theorem singleCopy_of_job (hj : job? s.engine h r = .ok (some j)) (hdegree : j.degree = 1) :
    SingleCopy s h r := by
  have hcalls : j.calls = [⟨1, .all⟩] := if_pos hdegree
  refine ⟨?_, ?_⟩
  · rw [calls_sync s hj, hcalls, List.map_singleton]
  · rw [result_sync s hj, Job.result, if_pos hdegree, hcalls, List.length_singleton]

theorem sharedCopies_of_job (horder : (h.order j.calls).Perm j.calls)
    (hj : job? s.engine h r = .ok (some j)) (hdegree : j.degree ≠ 1) (hpos : 1 ≤ j.degree)
    (hle : j.degree ≤ j.entries.length) : SharedCopies s h r j.entries j.degree j.calls := by
  have hshared := Job.sharedBy hdegree hpos hle
  have hlen := hshared.length_eq
  refine ⟨calls_sync s hj, hshared, ?_, fun actions st run hc v hv => ⟨?_, fun hsome => ?_⟩⟩
  · have hne : j.calls.isEmpty = false := by
      rw [List.isEmpty_eq_false_iff, ← List.length_pos_iff]
      omega
    rw [Fanout.start?, hne]
    rfl
  · rw [result_sync s hj, hlen, run.result_eq_job hdegree horder hc hv]
  · obtain ⟨result, rfl⟩ := Option.isSome_iff_exists.mp hsome
    exact (run.accounted.gather_eq hv).1

end

theorem exists_ok_of_map {α β : Type} {result : Ending α} {f : α → β} {b : β}
    (h : result.map (·.map f) = some (.ok b)) : ∃ a, result = some (.ok a) ∧ f a = b := by
  obtain ⟨x, rfl, hx⟩ := Option.map_eq_some_iff.mp h
  cases x with
  | error e => cases hx
  | ok a => exact ⟨a, rfl, Except.ok.inj hx⟩

theorem trueReport_of_result (s : Syncer) {h : Host} {r : Request}
    (horder : ∀ calls, (h.order calls).Perm calls) {report : Report}
    (hr : (s.sync h r).result = some (.ok report)) : TrueReport s h r report := by
  cases hj : job? s.engine h r with
  | error e => simp [sync, hj] at hr
  | ok job =>
      cases job with
      | none =>
          have hreport : Report.nothing h.elapsed = report := by simpa [sync, hj] using hr
          have hcalls : (s.sync h r).calls = [] := by simp [sync, hj]
          have hzero : TransferStats.zero.Fits := by decide
          rw [← hreport]
          refine ⟨?_, ⟨[], ?_, rfl⟩, hzero⟩
          · rw [hcalls]
            rfl
          · rw [hcalls]
            rfl
      | some j =>
          rw [result_sync s hj] at hr
          obtain ⟨stats, hstats, rfl⟩ := exists_ok_of_map hr
          obtain ⟨parts, houtcomes, hsum, hfits⟩ := Job.exists_stats (horder _) hstats
          refine ⟨?_, ⟨parts, ?_, hsum⟩, hfits⟩
          · rw [calls_sync s hj, List.length_map]
            rfl
          · rw [calls_sync s hj, List.map_map]
            exact houtcomes

/-- **The shape of a sync.** Without rsync, without a listing or with an empty one no transport gets
a call, and only the empty listing leads to a report, which says so. Otherwise there is a degree, and
the sync is a single copy if it is 1, and shared copies if it is greater. Every report is true. -/
theorem sync_shape (s : Syncer) {h : Host} (r : Request)
    (horder : ∀ calls, (h.order calls).Perm calls) :
    (∀ e, Rsync.ensureAvailable s.engine.rsync (h.probe s.engine.rsync) = .error e →
      (s.sync h r).result = some (.error e) ∧ (s.sync h r).calls = []) ∧
    (Rsync.ensureAvailable s.engine.rsync (h.probe s.engine.rsync) = .ok () →
      (∀ e, listing h r = .error e →
        (s.sync h r).result = some (.error e) ∧ (s.sync h r).calls = []) ∧
      (listing h r = .ok [] →
        (s.sync h r).result = some (.ok ⟨.zero, h.elapsed, 0, true⟩) ∧ (s.sync h r).calls = []) ∧
      ∀ entries, listing h r = .ok entries → entries ≠ [] →
        ∃ degree,
          Plan.degree? (countedFiles h r) entries.length r.options.parallelism = some degree ∧
            1 ≤ degree ∧ degree ≤ entries.length ∧
            (degree = 1 → SingleCopy s h r) ∧
            (degree ≠ 1 → ∃ calls, SharedCopies s h r entries degree calls)) ∧
    ∀ report, (s.sync h r).result = some (.ok report) → TrueReport s h r report := by
  have hjob := job?_eq s.engine h r
  refine ⟨fun e he => ?_, fun hok => ⟨fun e he => ?_, fun he => ?_, fun entries he hne => ?_⟩,
    fun report => trueReport_of_result s horder⟩
  · have hjob' : job? s.engine h r = .error e := by rw [hjob, he]; rfl
    simp [sync, hjob']
  · have hjob' : job? s.engine h r = .error e := by rw [hjob, hok, he]; rfl
    simp [sync, hjob']
  · have hjob' : job? s.engine h r = .ok none := by rw [hjob, hok, he]; rfl
    simp [sync, hjob', Report.nothing]
  · obtain ⟨degree, hdegree, hpos, hle⟩ := Plan.exists_degree? (countedFiles h r)
      r.options.parallelism (mt List.length_eq_zero_iff.mp hne)
    have hjob' : job? s.engine h r = .ok (some ⟨entries, degree⟩) := by
      rw [hjob, hok, he]
      show Except.ok ((Plan.degree? _ _ _).map _) = _
      rw [hdegree]
      rfl
    exact ⟨degree, hdegree, hpos, hle, singleCopy_of_job s hjob', fun hmore =>
      ⟨_, sharedCopies_of_job s (horder _) hjob' hmore hpos hle⟩⟩

/-! ### A source with two entries -/

/-- rsync, and a directory with a file and a directory in it. -/
def pairFiles : FileNode :=
  .dir [(Text.encode "rsync", .file []),
    (Text.encode "src", .dir [(Text.encode "a", .file []),
      (Text.encode "b", .dir [(Text.encode "c", .file [])])])]

/-- A host on which every copy moves one file, and the last result comes first. -/
def pairHost : Host :=
  { programs :=
      { files := pairFiles, cwd := [], searchPath := []
        program? := fun location =>
          if location = [Text.encode "rsync"] then some ⟨none, fun _ => []⟩ else none }
    listen := fun _ => .ok 50123
    custom := fun _ _ => some (.ok ⟨some 0, "Number of files transferred: 1", []⟩)
    order := List.reverse, cancelled := false, elapsed := ⟨1, 0⟩ }

def pairRequest (wish : Nat) : Request :=
  { workerUrl := "https://h", token := "t", localPath := Text.encode "/src", remotePath := "/r"
    options := { Options.none with parallelism := wish } }

def pairSyncer : Syncer :=
  { engine := { Engine.standard with rsync := Text.encode "/rsync" }, transport := some (.custom "t") }

theorem locate_pair {name : Text} (hname : name = "rsync".toList ∨ name = "src".toList) :
    pairHost.programs.files.locate true pairHost.programs.cwd (Text.encode ('/' :: name)) =
      .ok [Text.encode name] := by
  have hnames : FileNode.names (Text.encode ('/' :: name)) = [Text.encode name] := by
    rcases hname with rfl | rfl <;> decide
  rw [FileNode.locate, hnames]
  simp only [FileNode.walk]
  rcases hname with rfl | rfl <;> rfl

theorem ensureAvailable_pair :
    Rsync.ensureAvailable pairSyncer.engine.rsync (pairHost.probe pairSyncer.engine.rsync) =
      .ok () := by
  have hfind : pairHost.programs.atPath (Text.encode "/rsync") = .ok ⟨none, fun _ => []⟩ := by
    rw [Programs.atPath, show "/rsync".toList = '/' :: "rsync".toList from rfl,
      locate_pair (.inl rfl)]
    rfl
  have hlaunch : pairHost.programs.launch (Text.encode "/rsync") ["--version".toList] =
      pairHost.programs.atPath (Text.encode "/rsync") := rfl
  show Rsync.ensureAvailable _ ((pairHost.programs.launch (Text.encode "/rsync") _).map _) = _
  rw [hlaunch, hfind]
  rfl

theorem listing_pair (wish : Nat) :
    listing pairHost (pairRequest wish) = .ok [⟨"a", false⟩, ⟨"b", true⟩] := by
  have hopen : pairHost.programs.files.openDir pairHost.programs.cwd (Text.encode "/src") =
      .ok (.dir [(Text.encode "a", .file []),
        (Text.encode "b", .dir [(Text.encode "c", .file [])])]) := by
    have hfind : pairHost.programs.files.find pairHost.programs.cwd (Text.encode "/src") =
        .ok (.dir [(Text.encode "a", .file []),
          (Text.encode "b", .dir [(Text.encode "c", .file [])])]) := by
      rw [FileNode.find, show "/src".toList = '/' :: "src".toList from rfl,
        locate_pair (.inr rfl)]
      rfl
    have hnode : pairHost.programs.files.openNode pairHost.programs.cwd (Text.encode "/src") =
        pairHost.programs.files.find pairHost.programs.cwd (Text.encode "/src") := rfl
    rw [FileNode.openDir, hnode, hfind]
  have hentries : Scan.entries (.withBuiltin [])
      [.ok ⟨Text.encode "a", .ok .file⟩, .ok ⟨Text.encode "b", .ok .dir⟩] =
        .ok [⟨"a", false⟩, ⟨"b", true⟩] := by decide +kernel
  have hreading : Scan.reading pairHost.programs.files pairHost.programs.cwd
      (pairRequest wish).localPath =
        .ok [.ok ⟨Text.encode "a", .ok .file⟩, .ok ⟨Text.encode "b", .ok .dir⟩] := by
    rw [Scan.reading, show (pairRequest wish).localPath = Text.encode "/src" from rfl, hopen]
    rfl
  have hsorted : [(⟨"a", false⟩ : Entry), ⟨"b", true⟩].Pairwise fun e e' => e.le e' = true := by
    decide
  show Scan.topLevel (.withBuiltin []) (Text.encode "/src") _ = _
  rw [Scan.topLevel, hreading, Except.bind, hentries]
  exact congrArg Except.ok (List.mergeSort_of_pairwise hsorted)

theorem sync_shape_pair :
    (∃ report, (pairSyncer.sync pairHost (pairRequest 1)).result = some (.ok report) ∧
      report.chunks = 1 ∧ report.stats = ⟨1, 0⟩) ∧
    ∃ calls, SharedCopies pairSyncer pairHost (pairRequest 12) [⟨"a", false⟩, ⟨"b", true⟩] 2
      calls := by
  have horder : ∀ calls, (pairHost.order calls).Perm calls := fun calls => List.reverse_perm calls
  constructor
  · obtain ⟨-, hrest, hreport⟩ := sync_shape pairSyncer (pairRequest 1) horder
    obtain ⟨-, -, hplanned⟩ := hrest ensureAvailable_pair
    obtain ⟨degree, hdegree, -, -, hsingle, -⟩ := hplanned _ (listing_pair 1) (by simp)
    obtain rfl : 1 = degree := Option.some.inj hdegree
    have hcopy : outcome (pairSyncer.ending pairHost (pairRequest 1) ⟨1, .all⟩) =
        some (.ok ⟨1, 0⟩) := by
      have hparse : TransferStats.parse "Number of files transferred: 1" = ⟨1, 0⟩ := by
        decide +kernel
      show some (Except.ok (TransferStats.parse _)) = _
      rw [hparse]
    have hresult := (hsingle rfl).result
    rw [hcopy] at hresult
    exact ⟨_, hresult, (hreport _ hresult).chunks.trans (by rw [(hsingle rfl).made]; rfl), rfl⟩
  · obtain ⟨-, hrest, -⟩ := sync_shape pairSyncer (pairRequest 12) horder
    obtain ⟨-, -, hplanned⟩ := hrest ensureAvailable_pair
    obtain ⟨degree, hdegree, -, -, -, hshared⟩ := hplanned _ (listing_pair 12) (by simp)
    obtain rfl : 2 = degree := Option.some.inj hdegree
    exact hshared (by decide)

end TunnelSync.Syncer
