import ElasticOpenTelemetry.Foundations.FixedWidth
import ElasticOpenTelemetry.Foundations.ProcessPool
import ElasticOpenTelemetry.Foundations.Text
import Mathlib.Data.List.Nodup
import Mathlib.Data.List.Pairwise

/-!
# The log of loaded assemblies

`LoadedAssemblyLogHelper` (`LoadedAssemblyLogHelper.cs`) logs the assemblies of the process: those
that are loaded when `Subscribe` is called, and those that are loaded later, of which it is told by
the event `AssemblyLoad`. It subscribes first and enumerates then, so that none is missed; an
assembly that comes both ways is recognised by its key in a dictionary that ignores case. Any
number of calls of `Subscribe` and of loads of assemblies interleave. The runtime lists an assembly
before it raises the event for it.

`assembliesLogged_once` states that every assembly is logged, and none of them twice: two
assemblies have one key exactly when they have the same name, up to case, and the same version.
Names are ASCII; the dictionary also folds other letters.
-/

namespace ElasticOpenTelemetry.LoadedAssemblyLogHelper

open DotNet

/-! ### Assemblies -/

/-- `Version`: two to four components. -/
structure Version where
  major : ℕ
  minor : ℕ
  build : Option ℕ
  revision : Option ℕ

/-- What `TryLog` reads of an assembly. -/
structure Assembly where
  name : Option Str
  version : Option Version
  informationalVersion : Option Str
  /-- empty where dynamic code is not supported -/
  location : Str
  /-- `GetPublicKeyToken()`, as the two digits of each byte -/
  publicKeyToken : List (Fin 16 × Fin 16)

/-- The arguments of the line about an assembly. -/
structure AssemblyLoaded where
  assemblyName : Str
  assemblyVersion : Str
  informationalVersion : Option Str
  publicKeyToken : Str
  location : Str

/-- `SkipByName` -/
def skipByName : List Str :=
  ["mscorlib".toList, "netstandard".toList, "System.Private.CoreLib".toList, "dotnet".toList]

namespace Version

/-- `ToString()`: a revision is only written after a build. -/
def toString (version : Version) : Str :=
  join '.' ((version.major :: version.minor ::
    (match version.build, version.revision with
      | some build, some revision => [build, revision]
      | some build, none => [build]
      | none, _ => [])).map (Nat.toDigits 10))

end Version

namespace Assembly

/-- `assemblyName.Version?.ToString() ?? "unknown"` -/
def versionText (assembly : Assembly) : Str :=
  (assembly.version.map Version.toString).getD "unknown".toList

/-- `string.IsNullOrEmpty(name) || SkipByName.Contains(name)` -/
def isSkipped (assembly : Assembly) : Bool :=
  isNullOrEmpty assembly.name || skipByName.any (equalsIgnoreCase (assembly.name.getD []))

/-- `$"{name}|{assemblyVersion}"` -/
def key (assembly : Assembly) : Str := assembly.name.getD [] ++ '|' :: assembly.versionText

/-- A digit of `BitConverter.ToString`, in lower case. -/
def hexDigit (n : Fin 16) : Char := Nat.digitChar n

/-- The arguments of the line. -/
def describe (assembly : Assembly) : AssemblyLoaded where
  assemblyName := assembly.name.getD []
  assemblyVersion := assembly.versionText
  informationalVersion := assembly.informationalVersion
  publicKeyToken :=
    if assembly.publicKeyToken = [] then "null".toList
    else assembly.publicKeyToken.flatMap fun byte => [hexDigit byte.1, hexDigit byte.2]
  location := assembly.location

/-- The name, up to the case of ASCII letters, and the version. -/
def SameBinding (a b : Assembly) : Prop :=
  equalsIgnoreCase (a.name.getD []) (b.name.getD []) = true ∧ a.versionText = b.versionText

end Assembly

/-- The line names this assembly. -/
def AssemblyLoaded.isAbout (line : AssemblyLoaded) (assembly : Assembly) : Bool :=
  equalsIgnoreCase line.assemblyName (assembly.name.getD []) &&
    line.assemblyVersion == assembly.versionText

theorem isAbout_describe {a b : Assembly} : a.describe.isAbout b = true ↔ a.SameBinding b := by
  rw [AssemblyLoaded.isAbout, Bool.and_eq_true, beq_iff_eq]
  rfl

/-! ### Keys -/

/-- The version is what follows the last bar. -/
theorem append_bar_inj {a b c d : Str} (hb : '|' ∉ b) (hd : '|' ∉ d) :
    a ++ '|' :: b = c ++ '|' :: d ↔ a = c ∧ b = d := by
  refine ⟨fun h => ?_, fun h => by rw [h.1, h.2]⟩
  have hreverse : b.reverse ++ '|' :: a.reverse = d.reverse ++ '|' :: c.reverse := by
    simpa using congrArg List.reverse h
  have hsplit := congrArg (splitInTwo '|') hreverse
  rw [splitInTwo_append (by simpa using hb), splitInTwo_append (by simpa using hd)] at hsplit
  simpa [and_comm] using hsplit

theorem mem_join {sep c : Char} {segments : List Str} (h : c ∈ join sep segments) :
    c = sep ∨ ∃ segment ∈ segments, c ∈ segment := by
  induction segments with
  | nil => cases h
  | cons segment segments ih =>
    cases segments with
    | nil => exact .inr ⟨segment, List.mem_singleton.mpr rfl, by simpa [join] using h⟩
    | cons next segments =>
      have hcons : join sep (segment :: next :: segments) =
          segment ++ sep :: join sep (next :: segments) := by
        simp [join, List.intercalate, List.intersperse]
      rw [hcons, List.mem_append, List.mem_cons] at h
      rcases h with h | h | h
      · exact .inr ⟨segment, List.mem_cons_self, h⟩
      · exact .inl h
      · exact (ih h).imp_right fun ⟨x, hx, hc⟩ => ⟨x, List.mem_cons_of_mem _ hx, hc⟩

/-- A version is written with digits and dots. -/
theorem Version.isDigit_or_eq_of_mem_toString {version : Version} {c : Char}
    (h : c ∈ version.toString) : c.isDigit = true ∨ c = '.' := by
  rcases mem_join h with h | ⟨segment, hsegment, hc⟩
  · exact .inr h
  · obtain ⟨n, -, rfl⟩ := List.mem_map.mp hsegment
    exact .inl (Nat.isDigit_of_mem_toDigits (by decide) (by decide) hc)

/-- A text with another character is no version. -/
theorem Version.toString_ne_of_mem {version : Version} {s : Str} {c : Char} (hc : c ∈ s)
    (hdigit : c.isDigit = false) (hdot : c ≠ '.') : version.toString ≠ s := by
  rintro rfl
  rcases Version.isDigit_or_eq_of_mem_toString hc with h | h
  · rw [hdigit] at h
    cases h
  · exact hdot h

/-- Folding leaves it as it is. -/
theorem Version.toUpperInvariant_toString (version : Version) :
    toUpperInvariant version.toString = version.toString := by
  refine (List.map_congr_left fun c hc => ?_).trans (List.map_id _)
  refine toUpper_of_not_lower fun hlower => ?_
  rcases Version.isDigit_or_eq_of_mem_toString hc with hdigit | rfl
  · simp only [Char.isDigit, Bool.and_eq_true, decide_eq_true_eq] at hdigit
    have hle : c.toNat ≤ 57 := UInt32.le_iff_toNat_le.mp hdigit.2
    omega
  · exact absurd hlower.1 (by decide)

namespace Assembly

variable {a b : Assembly}

/-- The folded version: the version itself, or a text that no version has. -/
theorem toUpperInvariant_versionText (a : Assembly) :
    toUpperInvariant a.versionText = (a.version.map Version.toString).getD "UNKNOWN".toList := by
  rw [versionText]
  cases a.version with
  | none => decide
  | some version => exact version.toUpperInvariant_toString

theorem versionText_injective
    (h : toUpperInvariant a.versionText = toUpperInvariant b.versionText) :
    a.versionText = b.versionText := by
  rw [toUpperInvariant_versionText, toUpperInvariant_versionText] at h
  rw [versionText, versionText]
  have hne : ∀ version : Version, version.toString ≠ "UNKNOWN".toList := fun version =>
    Version.toString_ne_of_mem (c := 'U') (by decide) (by decide) (by decide)
  cases ha : a.version with
  | none =>
    cases hb : b.version with
    | none => rfl
    | some version =>
      rw [ha, hb] at h
      exact absurd h.symm (hne version)
  | some version =>
    cases hb : b.version with
    | none =>
      rw [ha, hb] at h
      exact absurd h (hne version)
    | some version' =>
      rw [ha, hb, Option.map_some, Option.map_some, Option.getD_some, Option.getD_some] at h
      exact h

theorem bar_not_mem_versionText (a : Assembly) : '|' ∉ toUpperInvariant a.versionText := by
  rw [toUpperInvariant_versionText]
  cases a.version with
  | none => decide
  | some version =>
    intro h
    exact Version.toString_ne_of_mem h (by decide) (by decide) rfl

theorem SameBinding.refl (a : Assembly) : SameBinding a a :=
  ⟨equalsIgnoreCase_iff.mpr rfl, rfl⟩

theorem SameBinding.symm (h : SameBinding a b) : SameBinding b a :=
  ⟨equalsIgnoreCase_iff.mpr (equalsIgnoreCase_iff.mp h.1).symm, h.2.symm⟩

theorem SameBinding.trans {c : Assembly} (h : SameBinding a b) (h' : SameBinding b c) :
    SameBinding a c :=
  ⟨equalsIgnoreCase_iff.mpr ((equalsIgnoreCase_iff.mp h.1).trans (equalsIgnoreCase_iff.mp h'.1)),
    h.2.trans h'.2⟩

/-- **The key says which assembly it is.** -/
theorem equalsIgnoreCase_key : equalsIgnoreCase a.key b.key = true ↔ SameBinding a b := by
  rw [equalsIgnoreCase_iff, SameBinding, equalsIgnoreCase_iff, key, key, toUpperInvariant,
    toUpperInvariant, List.map_append, List.map_append, List.map_cons, List.map_cons]
  refine (append_bar_inj (bar_not_mem_versionText a) (bar_not_mem_versionText b)).trans ?_
  exact and_congr_right fun _ => ⟨versionText_injective, congrArg toUpperInvariant⟩

end Assembly

/-! ### The calls -/

section Calls

variable {ι α : Type}

/-- The calls of `Subscribe`, and the loads of assemblies. -/
inductive Process (ι α : Type)
  | subscribe (i : ι)
  | load (assembly : α)
  deriving DecidableEq

/-- A line about an assembly: who has logged it, and with the logger of which call. -/
structure Entry (ι α : Type) where
  caller : Process ι α
  logger : ι
  assembly : α
  line : AssemblyLoaded

/-- What the environment decides at a step. -/
inductive Choice
  | ok
  /-- the level `Debug` is not enabled -/
  | disabled
  /-- reading the assembly, or logging, throws -/
  | throws
  deriving DecidableEq

/-- The runtime, the statics of the class and the log. A call of `Subscribe` names its logger and
its handler. -/
structure Shared (ι α : Type) where
  /-- `AppDomain.CurrentDomain.GetAssemblies()` -/
  loaded : List α
  /-- the handlers of `AssemblyLoad` -/
  handlers : List ι
  subscribed : Bool
  /-- the keys of `Logged` -/
  logged : List Str
  entries : List (Entry ι α)
  /-- the loggers of the calls of `LogAssemblyIntrospectionFailed` -/
  failures : List ι
  /-- whose `Exchange` has found 0; not in the source, like the other two -/
  winner : Option ι
  /-- what the loop of that call still has to log, once it has begun -/
  pending : Option (List α)
  /-- who has added a key for which assembly -/
  claimed : List (Process ι α × α)

/-- Nothing is loaded. -/
def Shared.initial : Shared ι α := ⟨[], [], false, [], [], [], none, none, []⟩

/-- Where a call of `TryLog` is. -/
inductive TryLogPc
  /-- `logger.IsEnabled(LogLevel.Debug)` -/
  | isEnabled
  /-- `assembly.GetName()` and the tests of the name -/
  | getName
  /-- `Logged.TryAdd` -/
  | tryAdd
  /-- the attribute, the location and the token -/
  | describe
  | logDebug
  | logFailed
  | returned
  /-- an exception has got out; `IsEnabled` and the `catch` block are outside of the `try` block -/
  | threw
  deriving DecidableEq

/-- Where a call of `Subscribe` or the load of an assembly is. -/
inductive Pc (ι α : Type)
  /-- `Interlocked.Exchange(ref _subscribed, 1)` -/
  | exchange
  /-- `AssemblyLoad += …` -/
  | addHandler
  | getAssemblies
  /-- the loop of `Subscribe` -/
  | scan (assemblies : List α)
  | scanTryLog (assembly : α) (assemblies : List α) (pc : TryLogPc)
  /-- the runtime lists the assembly -/
  | list
  /-- the runtime reads the handlers of the event -/
  | raise
  | deliver (handlers : List ι)
  | deliverTryLog (logger : ι) (handlers : List ι) (pc : TryLogPc)
  | returned
  /-- an exception has ended the loop, or has kept the event from the other handlers -/
  | threw

/-- A step of `TryLog(logger, assembly)`. -/
def tryLogStep (info : α → Assembly) (p : Process ι α) (logger : ι) (assembly : α)
    (choice : Choice) (s : Shared ι α) : TryLogPc → Option (Shared ι α × TryLogPc)
  | .isEnabled =>
    match choice with
    | .ok => some (s, .getName)
    | .disabled => some (s, .returned)
    | .throws => some (s, .threw)
  | .getName =>
    match choice with
    | .ok => some (s, if (info assembly).isSkipped then .returned else .tryAdd)
    | .disabled => none
    | .throws => some (s, .logFailed)
  | .tryAdd =>
    if s.logged.any (equalsIgnoreCase (info assembly).key) then some (s, .returned)
    else
      some ({ s with
        logged := s.logged ++ [(info assembly).key], claimed := s.claimed ++ [(p, assembly)] },
        .describe)
  | .describe =>
    match choice with
    | .ok => some (s, .logDebug)
    | .disabled => none
    | .throws => some (s, .logFailed)
  | .logDebug =>
    match choice with
    | .ok =>
      some ({ s with
        entries := s.entries ++ [⟨p, logger, assembly, (info assembly).describe⟩] }, .returned)
    | .disabled => none
    | .throws => some (s, .logFailed)
  | .logFailed =>
    match choice with
    | .ok => some ({ s with failures := s.failures ++ [logger] }, .returned)
    | .disabled => none
    | .throws => some (s, .threw)
  | .returned | .threw => none

/-- A step of a call. -/
def step (info : α → Assembly) : Pool.Program (Process ι α) (Shared ι α) (Pc ι α) Choice :=
  fun p choice s pc =>
    match p, pc with
    | .subscribe i, .exchange =>
      if s.subscribed then some (s, .returned)
      else some ({ s with subscribed := true, winner := some i }, .addHandler)
    | .subscribe i, .addHandler => some ({ s with handlers := s.handlers ++ [i] }, .getAssemblies)
    | .subscribe _, .getAssemblies => some ({ s with pending := some s.loaded }, .scan s.loaded)
    | .subscribe _, .scan [] => some (s, .returned)
    | .subscribe _, .scan (assembly :: assemblies) =>
      some (s, .scanTryLog assembly assemblies .isEnabled)
    | .subscribe _, .scanTryLog _ assemblies .returned =>
      some ({ s with pending := some assemblies }, .scan assemblies)
    | .subscribe _, .scanTryLog _ _ .threw => some (s, .threw)
    | .subscribe i, .scanTryLog assembly assemblies pc =>
      (tryLogStep info p i assembly choice s pc).map fun r =>
        (r.1, .scanTryLog assembly assemblies r.2)
    | .load assembly, .list => some ({ s with loaded := s.loaded ++ [assembly] }, .raise)
    | .load _, .raise => some (s, .deliver s.handlers)
    | .load _, .deliver [] => some (s, .returned)
    | .load _, .deliver (logger :: handlers) => some (s, .deliverTryLog logger handlers .isEnabled)
    | .load _, .deliverTryLog _ handlers .returned => some (s, .deliver handlers)
    | .load _, .deliverTryLog _ _ .threw => some (s, .threw)
    | .load assembly, .deliverTryLog logger handlers pc =>
      (tryLogStep info p logger assembly choice s pc).map fun r =>
        (r.1, .deliverTryLog logger handlers r.2)
    | _, _ => none

/-- Where a call begins. -/
def start : Process ι α → Pc ι α
  | .subscribe _ => .exchange
  | .load _ => .list

/-- Nothing has happened. -/
def initial : Pool (Process ι α) (Shared ι α) (Pc ι α) := ⟨.initial, start⟩

end Calls

/-! ### What holds along a run -/

section Invariant

variable {ι α : Type} (info : α → Assembly)

/-- The assembly is not to be logged, or its key is in the dictionary. -/
def Covered (s : Shared ι α) (a : α) : Prop :=
  (info a).isSkipped = true ∨ s.logged.any (equalsIgnoreCase (info a).key) = true

/-- The assembly is covered, or one of the handlers will see to it, or the loop of `Subscribe`
will, which has not begun or still has it to log. -/
def Due (s : Shared ι α) (a : α) (handlers : List ι) : Prop :=
  Covered info s a ∨ handlers ≠ [] ∨ s.pending = none ∨ ∃ assemblies ∈ s.pending, a ∈ assemblies

/-- What the caller has claimed it has logged, but for the one assembly it is at. -/
def Settled (p : Process ι α) (current : Option α) (s : Shared ι α) : Prop :=
  ∀ a, (p, a) ∈ s.claimed → (∃ e ∈ s.entries, e.caller = p ∧ e.assembly = a) ∨ current = some a

/-- What holds of the statics and the log. -/
structure Coherent (s : Shared ι α) : Prop where
  logged_eq : s.logged = s.claimed.map fun c => (info c.2).key
  distinct : s.claimed.Pairwise fun c d => ¬(info c.2).SameBinding (info d.2)
  nodup : (s.entries.map fun e => (e.caller, e.assembly)).Nodup
  entries_claimed : ∀ e ∈ s.entries, (e.caller, e.assembly) ∈ s.claimed
  entries_winner : ∀ e ∈ s.entries, s.winner = some e.logger
  entries_line : ∀ e ∈ s.entries, e.line = (info e.assembly).describe
  claimed_loaded : ∀ c ∈ s.claimed, c.2 ∈ s.loaded
  handlers_winner : ∀ i ∈ s.handlers, s.winner = some i
  subscribed_eq : s.subscribed = s.winner.isSome
  handlers_of_pending : s.pending ≠ none → s.handlers ≠ []

/-- What a call of `TryLog` relies on; `ok` stands for a run in which nothing throws and nothing is
disabled. -/
def TryLogFine (ok : Prop) (p : Process ι α) (a : α) (s : Shared ι α) : TryLogPc → Prop
  | .isEnabled | .getName => ok → Settled p none s
  | .tryAdd => ok → Settled p none s
  | .describe | .logDebug =>
    (p, a) ∈ s.claimed ∧ (∀ e ∈ s.entries, ¬(e.caller = p ∧ e.assembly = a)) ∧
      (ok → Settled p (some a) s)
  | .logFailed | .threw => ¬ok
  | .returned => ok → Covered info s a ∧ Settled p none s

/-- What a call relies on. -/
def Fine (ok : Prop) (s : Shared ι α) (p : Process ι α) (pc : Pc ι α) : Prop :=
  match p, pc with
  | .subscribe i, .exchange => s.winner ≠ some i ∧ (ok → Settled p none s)
  | .subscribe i, .addHandler => s.winner = some i ∧ s.pending = none ∧ (ok → Settled p none s)
  | .subscribe i, .getAssemblies =>
    s.winner = some i ∧ s.pending = none ∧ i ∈ s.handlers ∧ (ok → Settled p none s)
  | .subscribe i, .scan assemblies =>
    s.winner = some i ∧ s.pending = some assemblies ∧ (∀ a ∈ assemblies, a ∈ s.loaded) ∧
      (ok → Settled p none s)
  | .subscribe i, .scanTryLog a assemblies pc =>
    s.winner = some i ∧ s.pending = some (a :: assemblies) ∧
      (∀ b ∈ a :: assemblies, b ∈ s.loaded) ∧ TryLogFine info ok p a s pc
  | .subscribe i, .returned =>
    s.winner ≠ none ∧ (s.winner = some i → s.pending = some []) ∧ (ok → Settled p none s)
  | .load a, .list => a ∉ s.loaded ∧ (ok → Settled p none s)
  | .load a, .raise => a ∈ s.loaded ∧ (ok → Settled p none s)
  | .load a, .deliver handlers =>
    a ∈ s.loaded ∧ (∀ i ∈ handlers, s.winner = some i) ∧
      (ok → Due info s a handlers ∧ Settled p none s)
  | .load a, .deliverTryLog logger handlers pc =>
    a ∈ s.loaded ∧ s.winner = some logger ∧ (∀ i ∈ handlers, s.winner = some i) ∧
      TryLogFine info ok p a s pc
  | .load a, .returned => a ∈ s.loaded ∧ (ok → Due info s a [] ∧ Settled p none s)
  | .subscribe _, .threw | .load _, .threw => ¬ok
  | _, _ => False

/-- What a step of a call may change. -/
structure Guarantee (ok : Prop) (p : Process ι α) (s t : Shared ι α) : Prop where
  loaded : ∀ a ∈ s.loaded, a ∈ t.loaded
  loads : ∀ a ∈ t.loaded, a ∈ s.loaded ∨ p = .load a
  handlers : ∀ i ∈ s.handlers, i ∈ t.handlers
  winner : ∀ i, s.winner = some i → t.winner = some i
  wins : ∀ i, t.winner = some i → s.winner = some i ∨ p = .subscribe i
  logged : ∀ key ∈ s.logged, key ∈ t.logged
  claims : ∀ q a, (q, a) ∈ t.claimed → (q, a) ∈ s.claimed ∨ q = p
  claimed : ∀ c ∈ s.claimed, c ∈ t.claimed
  logs : ∀ e ∈ t.entries, e ∈ s.entries ∨ e.caller = p
  entries : ∀ e ∈ s.entries, e ∈ t.entries
  pending : t.pending = s.pending ∨
    (∃ i, p = .subscribe i ∧ s.winner = some i) ∧
      (s.pending = none ∧ t.pending = some s.loaded ∨
        ∃ a assemblies, s.pending = some (a :: assemblies) ∧ t.pending = some assemblies ∧
          (ok → Covered info t a))

variable {info} {ok : Prop} {p q : Process ι α} {s t : Shared ι α} {a : α}

theorem Covered.mono (h : Covered info s a) (hlogged : ∀ key ∈ s.logged, key ∈ t.logged) :
    Covered info t a := by
  refine h.imp_right fun h => ?_
  obtain ⟨key, hkey, heq⟩ := List.any_eq_true.mp h
  exact List.any_eq_true.mpr ⟨key, hlogged key hkey, heq⟩

section Stable

variable (h : Guarantee info ok p s t) (hne : q ≠ p)

include h in
theorem Guarantee.covered (hc : Covered info s a) : Covered info t a := hc.mono h.logged

include h hne in
theorem Guarantee.settled {current : Option α} (hq : Settled q current s) :
    Settled q current t := by
  intro a ha
  have hs : (q, a) ∈ s.claimed := (h.claims q a ha).resolve_right hne
  exact (hq a hs).imp_left fun ⟨e, he, heq⟩ => ⟨e, h.entries e he, heq⟩

include h in
/-- The loop of `Subscribe` takes the assemblies that are loaded, and leaves those it has logged. -/
theorem Guarantee.due {handlers : List ι} (hok : ok) (ha : a ∈ s.loaded)
    (hdue : Due info s a handlers) : Due info t a handlers := by
  rcases hdue with hc | hne | hpending
  · exact .inl (h.covered hc)
  · exact .inr (.inl hne)
  · rcases h.pending with heq | ⟨-, ⟨hnone, ht⟩ | ⟨b, assemblies, hs, ht, hcovered⟩⟩
    · rw [← heq] at hpending
      exact .inr (.inr hpending)
    · exact .inr (.inr (.inr ⟨s.loaded, ht, ha⟩))
    · rcases hpending with hnone | ⟨l, hl, hal⟩
      · rw [hs] at hnone
        cases hnone
      · rw [hs] at hl
        cases hl
        rcases List.mem_cons.mp hal with rfl | hal
        · exact .inl (hcovered hok)
        · exact .inr (.inr (.inr ⟨assemblies, ht, hal⟩))

include h hne in
theorem Guarantee.tryLogFine {pc : TryLogPc} (hfine : TryLogFine info ok q a s pc) :
    TryLogFine info ok q a t pc := by
  cases pc with
  | isEnabled => exact fun hok => h.settled hne (hfine hok)
  | getName => exact fun hok => h.settled hne (hfine hok)
  | tryAdd => exact fun hok => h.settled hne (hfine hok)
  | logFailed | threw => exact hfine
  | returned => exact fun hok => ⟨h.covered (hfine hok).1, h.settled hne (hfine hok).2⟩
  | describe | logDebug =>
    obtain ⟨hclaimed, hentries, hsettled⟩ := hfine
    refine ⟨h.claimed _ hclaimed, fun e he heq => ?_, fun hok => h.settled hne (hsettled hok)⟩
    rcases h.logs e he with hs | hp
    · exact hentries e hs heq
    · exact hne (heq.1.symm.trans hp)

include h hne in
/-- Only the call that has won touches what it has to log. -/
theorem Guarantee.keepsPending {i : ι} (hq : q = .subscribe i) (hwinner : s.winner = some i) :
    t.pending = s.pending := by
  rcases h.pending with heq | ⟨⟨j, hp, hj⟩, -⟩
  · exact heq
  · rw [hwinner] at hj
    cases hj
    exact absurd (hq.trans hp.symm) hne

include h hne in
theorem Guarantee.fine {pc : Pc ι α} (hfine : Fine info ok s q pc) : Fine info ok t q pc := by
  have hsettled : (ok → Settled q none s) → ok → Settled q none t :=
    fun hq hok => h.settled hne (hq hok)
  cases q with
  | subscribe i =>
    have hpending := fun hwinner => h.keepsPending hne (i := i) rfl hwinner
    cases pc with
    | exchange =>
      refine ⟨fun hi => ?_, hsettled hfine.2⟩
      rcases h.wins i hi with hs | hp
      · exact hfine.1 hs
      · exact hne hp.symm
    | addHandler =>
      exact ⟨h.winner i hfine.1, (hpending hfine.1).trans hfine.2.1, hsettled hfine.2.2⟩
    | getAssemblies =>
      exact ⟨h.winner i hfine.1, (hpending hfine.1).trans hfine.2.1, h.handlers i hfine.2.2.1,
        hsettled hfine.2.2.2⟩
    | scan assemblies =>
      exact ⟨h.winner i hfine.1, (hpending hfine.1).trans hfine.2.1,
        fun b hb => h.loaded b (hfine.2.2.1 b hb), hsettled hfine.2.2.2⟩
    | scanTryLog a assemblies pc =>
      exact ⟨h.winner i hfine.1, (hpending hfine.1).trans hfine.2.1,
        fun b hb => h.loaded b (hfine.2.2.1 b hb), h.tryLogFine hne hfine.2.2.2⟩
    | returned =>
      obtain ⟨hsome, hempty, hq⟩ := hfine
      obtain ⟨w, hw⟩ := Option.ne_none_iff_exists'.mp hsome
      have ht := h.winner w hw
      refine ⟨by rw [ht]; nofun, fun hi => ?_, hsettled hq⟩
      have hs : s.winner = some i := by
        rw [hw, ← ht, hi]
      exact (hpending hs).trans (hempty hs)
    | threw => exact hfine
    | list | raise | deliver | deliverTryLog => exact hfine
  | load a =>
    cases pc with
    | list =>
      refine ⟨fun ha => ?_, hsettled hfine.2⟩
      rcases h.loads a ha with hs | hp
      · exact hfine.1 hs
      · exact hne hp.symm
    | raise => exact ⟨h.loaded a hfine.1, hsettled hfine.2⟩
    | deliver handlers =>
      exact ⟨h.loaded a hfine.1, fun i hi => h.winner i (hfine.2.1 i hi), fun hok =>
        ⟨h.due hok hfine.1 (hfine.2.2 hok).1, h.settled hne (hfine.2.2 hok).2⟩⟩
    | deliverTryLog logger handlers pc =>
      exact ⟨h.loaded a hfine.1, h.winner logger hfine.2.1,
        fun i hi => h.winner i (hfine.2.2.1 i hi), h.tryLogFine hne hfine.2.2.2⟩
    | returned =>
      exact ⟨h.loaded a hfine.1, fun hok =>
        ⟨h.due hok hfine.1 (hfine.2 hok).1, h.settled hne (hfine.2 hok).2⟩⟩
    | threw => exact hfine
    | exchange | addHandler | getAssemblies | scan | scanTryLog => exact hfine

end Stable

/-! ### Steps of `TryLog` -/

/-- What a step of `TryLog` may change: it adds to the dictionary and to the log. -/
structure LogGuarantee (p : Process ι α) (s t : Shared ι α) : Prop where
  loaded : t.loaded = s.loaded
  handlers : t.handlers = s.handlers
  winner : t.winner = s.winner
  pending : t.pending = s.pending
  logged : ∀ key ∈ s.logged, key ∈ t.logged
  claims : ∀ q a, (q, a) ∈ t.claimed → (q, a) ∈ s.claimed ∨ q = p
  claimed : ∀ c ∈ s.claimed, c ∈ t.claimed
  logs : ∀ e ∈ t.entries, e ∈ s.entries ∨ e.caller = p
  entries : ∀ e ∈ s.entries, e ∈ t.entries

theorem LogGuarantee.refl (p : Process ι α) (s : Shared ι α) : LogGuarantee p s s :=
  ⟨rfl, rfl, rfl, rfl, fun _ h => h, fun _ _ h => .inl h, fun _ h => h, fun _ h => .inl h,
    fun _ h => h⟩

theorem LogGuarantee.guarantee (h : LogGuarantee p s t) : Guarantee info ok p s t where
  loaded a ha := by rwa [h.loaded]
  loads a ha := .inl (by rwa [h.loaded] at ha)
  handlers i hi := by rwa [h.handlers]
  winner i hi := by rwa [h.winner]
  wins i hi := .inl (by rwa [h.winner] at hi)
  logged := h.logged
  claims := h.claims
  claimed := h.claimed
  logs := h.logs
  entries := h.entries
  pending := .inl h.pending

/-- Adding a key that is not in the dictionary. -/
theorem tryAdd_fine (hs : Coherent info s) (ha : a ∈ s.loaded) (hsettled : ok → Settled p none s)
    (hnew : s.logged.any (equalsIgnoreCase (info a).key) = false) :
    Coherent info { s with
        logged := s.logged ++ [(info a).key], claimed := s.claimed ++ [(p, a)] } ∧
      TryLogFine info ok p a { s with
        logged := s.logged ++ [(info a).key], claimed := s.claimed ++ [(p, a)] } .describe ∧
      LogGuarantee p s { s with
        logged := s.logged ++ [(info a).key], claimed := s.claimed ++ [(p, a)] } := by
  have hother : ∀ c ∈ s.claimed, ¬(info c.2).SameBinding (info a) := by
    intro c hc hsame
    rw [hs.logged_eq, List.any_map] at hnew
    have hkey := List.any_eq_false.mp hnew c hc
    exact hkey (Assembly.equalsIgnoreCase_key.mpr hsame.symm)
  refine ⟨{ hs with
      logged_eq := ?_, distinct := ?_, entries_claimed := ?_, claimed_loaded := ?_ },
    ⟨?_, ?_, ?_⟩, { LogGuarantee.refl p s with logged := ?_, claims := ?_, claimed := ?_ }⟩
  · rw [List.map_append, ← hs.logged_eq]
    rfl
  · refine List.pairwise_append.mpr ⟨hs.distinct, List.pairwise_singleton .., fun c hc d hd => ?_⟩
    rw [List.mem_singleton.mp hd]
    exact hother c hc
  · exact fun e he => List.mem_append_left _ (hs.entries_claimed e he)
  · intro c hc
    rcases List.mem_append.mp hc with hc | hc
    · exact hs.claimed_loaded c hc
    · rw [List.mem_singleton.mp hc]
      exact ha
  · exact List.mem_append_right _ (List.mem_singleton.mpr rfl)
  · rintro e he ⟨rfl, rfl⟩
    exact hother _ (hs.entries_claimed e he) (.refl _)
  · intro hok b hb
    rcases List.mem_append.mp hb with hb | hb
    · exact (hsettled hok b hb).imp_right nofun
    · cases List.mem_singleton.mp hb
      exact .inr rfl
  · exact fun key hkey => List.mem_append_left _ hkey
  · intro q b hb
    rcases List.mem_append.mp hb with hb | hb
    · exact .inl hb
    · exact .inr (Prod.mk.inj (List.mem_singleton.mp hb)).1
  · exact fun c hc => List.mem_append_left _ hc

/-- Logging the assembly that the caller has claimed. -/
theorem logDebug_fine {logger : ι} (hs : Coherent info s) (hwinner : s.winner = some logger)
    (hfine : TryLogFine info ok p a s .logDebug) :
    Coherent info { s with entries := s.entries ++ [⟨p, logger, a, (info a).describe⟩] } ∧
      TryLogFine info ok p a
        { s with entries := s.entries ++ [⟨p, logger, a, (info a).describe⟩] } .returned ∧
      LogGuarantee p s { s with entries := s.entries ++ [⟨p, logger, a, (info a).describe⟩] } := by
  obtain ⟨hclaimed, hentries, hsettled⟩ := hfine
  refine ⟨{ hs with nodup := ?_, entries_claimed := ?_, entries_winner := ?_, entries_line := ?_ },
    fun hok => ⟨?_, ?_⟩, { LogGuarantee.refl p s with logs := ?_, entries := ?_ }⟩
  · rw [List.map_append]
    refine List.nodup_append.mpr ⟨hs.nodup, List.nodup_singleton _, ?_⟩
    rintro x hx y hy rfl
    obtain ⟨e, he, heq⟩ := List.mem_map.mp hx
    cases List.mem_singleton.mp hy
    exact hentries e he (Prod.mk.inj heq)
  · intro e he
    rcases List.mem_append.mp he with he | he
    · exact hs.entries_claimed e he
    · cases List.mem_singleton.mp he
      exact hclaimed
  · intro e he
    rcases List.mem_append.mp he with he | he
    · exact hs.entries_winner e he
    · cases List.mem_singleton.mp he
      exact hwinner
  · intro e he
    rcases List.mem_append.mp he with he | he
    · exact hs.entries_line e he
    · cases List.mem_singleton.mp he
      rfl
  · refine .inr (List.any_eq_true.mpr ⟨(info a).key, ?_, equalsIgnoreCase_iff.mpr rfl⟩)
    rw [hs.logged_eq]
    exact List.mem_map.mpr ⟨(p, a), hclaimed, rfl⟩
  · intro b hb
    left
    rcases hsettled hok b hb with ⟨e, he, heq⟩ | hcurrent
    · exact ⟨e, List.mem_append_left _ he, heq⟩
    · cases hcurrent
      exact ⟨_, List.mem_append_right _ (List.mem_singleton.mpr rfl), rfl, rfl⟩
  · intro e he
    rcases List.mem_append.mp he with he | he
    · exact .inl he
    · cases List.mem_singleton.mp he
      exact .inr rfl
  · exact fun e he => List.mem_append_left _ he

/-- A step of `TryLog`. -/
theorem tryLogStep_fine {logger : ι} {choice : Choice} {pc pc' : TryLogPc} (hs : Coherent info s)
    (hwinner : s.winner = some logger) (ha : a ∈ s.loaded) (hok : ok → choice = .ok)
    (hfine : TryLogFine info ok p a s pc)
    (hstep : tryLogStep info p logger a choice s pc = some (t, pc')) :
    Coherent info t ∧ TryLogFine info ok p a t pc' ∧ LogGuarantee p s t := by
  cases pc with
  | isEnabled =>
    cases choice with
    | ok =>
      cases hstep
      exact ⟨hs, hfine, .refl p s⟩
    | disabled =>
      cases hstep
      exact ⟨hs, fun h => absurd (hok h) nofun, .refl p s⟩
    | throws =>
      cases hstep
      exact ⟨hs, fun h => absurd (hok h) nofun, .refl p s⟩
  | getName =>
    cases choice with
    | ok =>
      obtain ⟨rfl, rfl⟩ := Prod.mk.inj (Option.some.inj hstep)
      refine ⟨hs, ?_, .refl p s⟩
      split_ifs with hskipped
      · exact fun h => ⟨.inl hskipped, hfine h⟩
      · exact hfine
    | disabled => cases hstep
    | throws =>
      cases hstep
      exact ⟨hs, fun h => absurd (hok h) nofun, .refl p s⟩
  | tryAdd =>
    rw [tryLogStep] at hstep
    split_ifs at hstep with hany
    · cases hstep
      exact ⟨hs, fun h => ⟨.inr hany, hfine h⟩, .refl p s⟩
    · cases hstep
      exact tryAdd_fine hs ha hfine (Bool.not_eq_true _ ▸ hany)
  | describe =>
    cases choice with
    | ok =>
      cases hstep
      exact ⟨hs, hfine, .refl p s⟩
    | disabled => cases hstep
    | throws =>
      cases hstep
      exact ⟨hs, fun h => absurd (hok h) nofun, .refl p s⟩
  | logDebug =>
    cases choice with
    | ok =>
      cases hstep
      exact logDebug_fine hs hwinner hfine
    | disabled => cases hstep
    | throws =>
      cases hstep
      exact ⟨hs, fun h => absurd (hok h) nofun, .refl p s⟩
  | logFailed =>
    cases choice with
    | ok =>
      cases hstep
      exact ⟨{ hs with }, fun h => absurd h hfine, { LogGuarantee.refl p s with }⟩
    | disabled => cases hstep
    | throws =>
      cases hstep
      exact ⟨hs, hfine, .refl p s⟩
  | returned | threw => cases hstep

/-! ### Steps of the calls -/

theorem step_scanTryLog {i : ι} {assemblies : List α} {choice : Choice} {pc : TryLogPc}
    (h : pc ≠ .returned) (h' : pc ≠ .threw) :
    step info (.subscribe i) choice s (.scanTryLog a assemblies pc) =
      (tryLogStep info (.subscribe i) i a choice s pc).map fun r =>
        (r.1, .scanTryLog a assemblies r.2) := by
  cases pc <;> first | rfl | exact absurd rfl h | exact absurd rfl h'

theorem step_deliverTryLog {logger : ι} {handlers : List ι} {choice : Choice} {pc : TryLogPc}
    (h : pc ≠ .returned) (h' : pc ≠ .threw) :
    step info (.load a) choice s (.deliverTryLog logger handlers pc) =
      (tryLogStep info (.load a) logger a choice s pc).map fun r =>
        (r.1, .deliverTryLog logger handlers r.2) := by
  cases pc <;> first | rfl | exact absurd rfl h | exact absurd rfl h'

variable (info ok) in
theorem Guarantee.refl (p : Process ι α) (s : Shared ι α) : Guarantee info ok p s s :=
  (LogGuarantee.refl p s).guarantee

/-- A step of `Subscribe`. -/
theorem step_subscribe {i : ι} {choice : Choice} {pc pc' : Pc ι α} (hs : Coherent info s)
    (hok : ok → choice = .ok) (hfine : Fine info ok s (.subscribe i) pc)
    (hstep : step info (.subscribe i) choice s pc = some (t, pc')) :
    Coherent info t ∧ Fine info ok t (.subscribe i) pc' ∧
      Guarantee info ok (.subscribe i) s t := by
  cases pc with
  | exchange =>
    obtain ⟨hne, hsettled⟩ := hfine
    rw [step] at hstep
    split_ifs at hstep with hsubscribed
    · cases hstep
      rw [hs.subscribed_eq, Option.isSome_iff_ne_none] at hsubscribed
      exact ⟨hs, ⟨hsubscribed, fun h => absurd h hne, hsettled⟩, .refl info ok _ s⟩
    · cases hstep
      have hnone : s.winner = none := by
        rwa [hs.subscribed_eq, Option.isSome_iff_ne_none, not_not] at hsubscribed
      have hhandlers : s.handlers = [] := by
        refine List.eq_nil_iff_forall_not_mem.mpr fun j hj => ?_
        have := hs.handlers_winner j hj
        rw [hnone] at this
        cases this
      have hpending : s.pending = none :=
        not_not.mp fun h => hs.handlers_of_pending h hhandlers
      have hentries : ∀ e ∈ s.entries, False := fun e he => by
        have := hs.entries_winner e he
        rw [hnone] at this
        cases this
      refine ⟨{ hs with
          entries_winner := fun e he => (hentries e he).elim
          handlers_winner := fun j hj => ?_
          subscribed_eq := rfl }, ⟨rfl, hpending, hsettled⟩,
        { Guarantee.refl info ok _ s with
          winner := fun j hj => ?_
          wins := fun j hj => .inr (congrArg _ (Option.some.inj hj))
          pending := .inl rfl }⟩
      · rw [hhandlers] at hj
        cases hj
      · rw [hnone] at hj
        cases hj
  | addHandler =>
    cases hstep
    obtain ⟨hwinner, hpending, hsettled⟩ := hfine
    refine ⟨{ hs with handlers_winner := fun j hj => ?_, handlers_of_pending := fun h => ?_ },
      ⟨hwinner, hpending, List.mem_append_right _ (List.mem_singleton.mpr rfl), hsettled⟩,
      { Guarantee.refl info ok _ s with
        handlers := fun j hj => List.mem_append_left _ hj, pending := .inl rfl }⟩
    · rcases List.mem_append.mp hj with hj | hj
      · exact hs.handlers_winner j hj
      · rwa [List.mem_singleton.mp hj]
    · exact absurd hpending h
  | getAssemblies =>
    cases hstep
    obtain ⟨hwinner, hpending, hhandler, hsettled⟩ := hfine
    exact ⟨{ hs with handlers_of_pending := fun _ => List.ne_nil_of_mem hhandler },
      ⟨hwinner, rfl, fun _ h => h, hsettled⟩,
      { Guarantee.refl info ok _ s with pending := .inr ⟨⟨i, rfl, hwinner⟩, .inl ⟨hpending, rfl⟩⟩ }⟩
  | scan assemblies =>
    obtain ⟨hwinner, hpending, hloaded, hsettled⟩ := hfine
    cases assemblies with
    | nil =>
      cases hstep
      exact ⟨hs, ⟨by rw [hwinner]; nofun, fun _ => hpending, hsettled⟩, .refl info ok _ s⟩
    | cons a assemblies =>
      cases hstep
      exact ⟨hs, ⟨hwinner, hpending, hloaded, hsettled⟩, .refl info ok _ s⟩
  | scanTryLog a assemblies pc =>
    obtain ⟨hwinner, hpending, hloaded, hlog⟩ := hfine
    by_cases hpc : pc = .returned
    · subst hpc
      cases hstep
      refine ⟨{ hs with handlers_of_pending := fun _ => hs.handlers_of_pending ?_ },
        ⟨hwinner, rfl, fun b hb => hloaded b (List.mem_cons_of_mem _ hb), fun h => (hlog h).2⟩,
        { Guarantee.refl info ok _ s with
          pending := .inr ⟨⟨i, rfl, hwinner⟩, .inr
            ⟨a, assemblies, hpending, rfl, fun h => (hlog h).1⟩⟩ }⟩
      rw [hpending]
      nofun
    by_cases hthrew : pc = .threw
    · subst hthrew
      cases hstep
      exact ⟨hs, hlog, .refl info ok _ s⟩
    · rw [step_scanTryLog hpc hthrew] at hstep
      obtain ⟨⟨t', pc''⟩, hlogStep, heq⟩ := Option.map_eq_some_iff.mp hstep
      obtain ⟨rfl, rfl⟩ := Prod.mk.inj heq
      obtain ⟨ht, hlog', hguar⟩ :=
        tryLogStep_fine hs hwinner (hloaded a List.mem_cons_self) hok hlog hlogStep
      exact ⟨ht, ⟨by rw [hguar.winner, hwinner], by rw [hguar.pending, hpending],
        fun b hb => by rw [hguar.loaded]; exact hloaded b hb, hlog'⟩, hguar.guarantee⟩
  | returned | threw => cases hstep
  | list | raise | deliver | deliverTryLog => exact hfine.elim

/-- A step of the load of an assembly. -/
theorem step_load {choice : Choice} {pc pc' : Pc ι α} (hs : Coherent info s)
    (hok : ok → choice = .ok) (hfine : Fine info ok s (.load a) pc)
    (hstep : step info (.load a) choice s pc = some (t, pc')) :
    Coherent info t ∧ Fine info ok t (.load a) pc' ∧ Guarantee info ok (.load a) s t := by
  cases pc with
  | list =>
    cases hstep
    refine ⟨{ hs with
        claimed_loaded := fun c hc => List.mem_append_left _ (hs.claimed_loaded c hc) },
      ⟨List.mem_append_right _ (List.mem_singleton.mpr rfl), hfine.2⟩,
      { Guarantee.refl info ok _ s with
        loaded := fun b hb => List.mem_append_left _ hb
        loads := fun b hb => ?_
        pending := .inl rfl }⟩
    exact (List.mem_append.mp hb).imp_right fun h => by rw [List.mem_singleton.mp h]
  | raise =>
    cases hstep
    refine ⟨hs, ⟨hfine.1, hs.handlers_winner, fun h => ⟨?_, hfine.2 h⟩⟩, .refl info ok _ s⟩
    -- a loop that has begun has subscribed before
    by_cases hpending : s.pending = none
    · exact .inr (.inr (.inl hpending))
    · exact .inr (.inl (hs.handlers_of_pending hpending))
  | deliver handlers =>
    obtain ⟨hloaded, hwinner, hrest⟩ := hfine
    cases handlers with
    | nil =>
      cases hstep
      exact ⟨hs, ⟨hloaded, hrest⟩, .refl info ok _ s⟩
    | cons logger handlers =>
      cases hstep
      exact ⟨hs, ⟨hloaded, hwinner logger List.mem_cons_self,
        fun i hi => hwinner i (List.mem_cons_of_mem _ hi), fun h => (hrest h).2⟩, .refl info ok _ s⟩
  | deliverTryLog logger handlers pc =>
    obtain ⟨hloaded, hwinner, hhandlers, hlog⟩ := hfine
    by_cases hpc : pc = .returned
    · subst hpc
      cases hstep
      exact ⟨hs, ⟨hloaded, hhandlers, fun h => ⟨.inl (hlog h).1, (hlog h).2⟩⟩, .refl info ok _ s⟩
    by_cases hthrew : pc = .threw
    · subst hthrew
      cases hstep
      exact ⟨hs, hlog, .refl info ok _ s⟩
    · rw [step_deliverTryLog hpc hthrew] at hstep
      obtain ⟨⟨t', pc''⟩, hlogStep, heq⟩ := Option.map_eq_some_iff.mp hstep
      obtain ⟨rfl, rfl⟩ := Prod.mk.inj heq
      obtain ⟨ht, hlog', hguar⟩ := tryLogStep_fine hs hwinner hloaded hok hlog hlogStep
      exact ⟨ht, ⟨by rw [hguar.loaded]; exact hloaded, by rw [hguar.winner, hwinner],
        fun i hi => by rw [hguar.winner]; exact hhandlers i hi, hlog'⟩, hguar.guarantee⟩
  | returned | threw => cases hstep
  | exchange | addHandler | getAssemblies | scan | scanTryLog => exact hfine.elim

end Invariant

/-! ### Runs -/

section Runs

variable {ι α : Type} {info : α → Assembly}

/-- The outline of all runs, or with `ok` of those in which nothing throws and nothing is
disabled. -/
def outline (info : α → Assembly) (ok : Prop) :
    Pool.Outline (step (ι := ι) info) fun a _ => ok → a.2 = .ok :=
  .ofGuarantee (Coherent info) (fun p s pc => Fine info ok s p pc) (Guarantee info ok)
    (fun p _ _ _ _ hok hs hfine hstep =>
      match p with
      | .subscribe _ => step_subscribe hs hok hfine hstep
      | .load _ => step_load hs hok hfine hstep)
    fun _ _ _ _ _ hne hguar hfine => hguar.fine hne hfine

theorem outline_initial (ok : Prop) : (outline (ι := ι) info ok).Holds initial where
  global :=
    { logged_eq := rfl, distinct := .nil, nodup := .nil, entries_claimed := nofun
      entries_winner := nofun, entries_line := nofun, claimed_loaded := nofun
      handlers_winner := nofun, subscribed_eq := rfl
      handlers_of_pending := fun h => absurd rfl h }
  loc p := by
    cases p with
    | subscribe i => exact ⟨nofun, fun _ => nofun⟩
    | load a => exact ⟨nofun, fun _ => nofun⟩

/-- The lines about an assembly. -/
def linesOf (info : α → Assembly) (s : Shared ι α) (a : α) : List (Entry ι α) :=
  s.entries.filter fun e => e.line.isAbout (info a)

/-- No two lines are about one assembly. -/
theorem entries_pairwise {s : Shared ι α} (hs : Coherent info s) :
    s.entries.Pairwise fun e f => ¬(info e.assembly).SameBinding (info f.assembly) := by
  refine List.Pairwise.of_map _ (fun e f h => h)
    (hs.nodup.pairwise_of_forall_ne fun x hx y hy hne => ?_ :
      (s.entries.map fun e => (e.caller, e.assembly)).Pairwise fun x y =>
        ¬(info x.2).SameBinding (info y.2))
  have hclaimed : ∀ x ∈ s.entries.map fun e => (e.caller, e.assembly), x ∈ s.claimed := by
    intro x hx
    obtain ⟨e, he, rfl⟩ := List.mem_map.mp hx
    exact hs.entries_claimed e he
  have : Std.Symm fun c d : Process ι α × α => ¬(info c.2).SameBinding (info d.2) :=
    ⟨fun _ _ h h' => h h'.symm⟩
  exact hs.distinct.forall (hclaimed x hx) (hclaimed y hy) hne

theorem length_linesOf_le {s : Shared ι α} (hs : Coherent info s) (a : α) :
    (linesOf info s a).length ≤ 1 := by
  have hpairwise := (entries_pairwise hs).filter fun e => e.line.isAbout (info a)
  have hmem : ∀ e ∈ linesOf info s a, (info e.assembly).SameBinding (info a) := by
    intro e he
    obtain ⟨hentry, habout⟩ := List.mem_filter.mp he
    rw [hs.entries_line e hentry] at habout
    exact isAbout_describe.mp habout
  rw [linesOf] at hmem ⊢
  generalize s.entries.filter _ = lines at hpairwise hmem ⊢
  match lines with
  | [] => exact Nat.zero_le 1
  | [_] => exact le_refl 1
  | e :: f :: _ =>
    have hne := List.rel_of_pairwise_cons hpairwise List.mem_cons_self
    exact absurd ((hmem e List.mem_cons_self).trans
      (hmem f (List.mem_cons_of_mem _ List.mem_cons_self)).symm) hne

/-- Every call has returned, or has not begun. -/
def Finished (c : Pool (Process ι α) (Shared ι α) (Pc ι α)) : Prop :=
  ∀ p, c.pc p = start p ∨ c.pc p = .returned

/-- Finished calls have logged what they have claimed. -/
theorem settled_of_finished {c : Pool (Process ι α) (Shared ι α) (Pc ι α)}
    (hc : (outline info True).Holds c) (hfinished : Finished c) (p : Process ι α) :
    Settled p none c.shared := by
  have hfine := hc.loc p
  rcases hfinished p with hpc | hpc <;> rw [hpc] at hfine <;> cases p with
  | subscribe i => first | exact hfine.2 trivial | exact hfine.2.2 trivial
  | load a => first | exact hfine.2 trivial | exact (hfine.2 trivial).2

/-- **Every assembly is logged, and none of them twice.** In every run, at most one line is about
an assembly, it comes from the logger of one call of `Subscribe`, and the assembly is loaded. If
nothing throws and nothing is disabled, and one call of `Subscribe` has returned and all others as
well, every assembly that is loaded and not to be skipped has its line, whether it was loaded
before that call, while it ran, or after it. -/
theorem assembliesLogged_once [DecidableEq ι] [DecidableEq α] (info : α → Assembly)
    {as : List (Process ι α × Choice)} {c : Pool (Process ι α) (Shared ι α) (Pc ι α)}
    (h : Execution.exec (Pool.next (step info)) as initial = some c) :
    (∀ a, (linesOf info c.shared a).length ≤ 1) ∧
      (∃ logger : Option ι, ∀ e ∈ c.shared.entries,
        logger = some e.logger ∧ e.assembly ∈ c.shared.loaded ∧
          e.line = (info e.assembly).describe) ∧
      ((∀ a ∈ as, a.2 = .ok) → Finished c → (∃ i, c.pc (.subscribe i) = .returned) →
        ∀ a ∈ c.shared.loaded, (info a).isSkipped = false →
          (linesOf info c.shared a).length = 1) := by
  have hholds := (outline info False).exec
    (Execution.along_of_forall (fun _ _ => False.elim) as initial) (outline_initial False) h
  refine ⟨length_linesOf_le hholds.global, ⟨c.shared.winner, fun e he =>
    ⟨hholds.global.entries_winner e he,
      hholds.global.claimed_loaded _ (hholds.global.entries_claimed e he),
      hholds.global.entries_line e he⟩⟩, ?_⟩
  rintro hok hfinished ⟨i, hi⟩ a ha hskipped
  have hholds := (outline info True).exec
    (Execution.along_of_mem fun x hx _ => hok x hx) (outline_initial True) h
  -- the call that has won has nothing left to log
  have hpending : c.shared.pending = some [] := by
    have hfine := hholds.loc (.subscribe i)
    rw [hi] at hfine
    obtain ⟨w, hw⟩ := Option.ne_none_iff_exists'.mp hfine.1
    have hwinner := hholds.loc (.subscribe w)
    rcases hfinished (.subscribe w) with hpc | hpc <;> rw [hpc] at hwinner
    · exact absurd hw hwinner.1
    · exact hwinner.2.1 hw
  have hcovered : Covered info c.shared a := by
    have hfine := hholds.loc (.load a)
    rcases hfinished (.load a) with hpc | hpc <;> rw [hpc] at hfine
    · exact absurd ha hfine.1
    · rcases (hfine.2 trivial).1 with hcovered | hnil | hnone | ⟨assemblies, hsome, hmem⟩
      · exact hcovered
      · exact absurd rfl hnil
      · rw [hpending] at hnone
        cases hnone
      · rw [hpending] at hsome
        cases hsome
        cases hmem
  have hkey : c.shared.logged.any (equalsIgnoreCase (info a).key) = true := by
    rcases hcovered with hskip | hkey
    · rw [hskipped] at hskip
      cases hskip
    · exact hkey
  rw [hholds.global.logged_eq, List.any_map] at hkey
  obtain ⟨⟨p, b⟩, hclaimed, hsame⟩ := List.any_eq_true.mp hkey
  obtain ⟨e, he, -, rfl⟩ :=
    ((settled_of_finished hholds hfinished p) b hclaimed).resolve_right nofun
  have hmem : e ∈ linesOf info c.shared a := by
    refine List.mem_filter.mpr ⟨he, ?_⟩
    rw [hholds.global.entries_line e he]
    exact isAbout_describe.mpr (Assembly.equalsIgnoreCase_key.mp hsame).symm
  exact le_antisymm (length_linesOf_le hholds.global a) (List.length_pos_of_mem hmem)

/-- The assembly with this number. -/
def twoVersions : Bool → Assembly
  | false =>
    { name := some "Sample".toList
      version := some { major := 1, minor := 0, build := none, revision := none }
      informationalVersion := none, location := [], publicKeyToken := [] }
  | true =>
    { name := some "sample".toList
      version := some { major := 2, minor := 0, build := none, revision := none }
      informationalVersion := none, location := [], publicKeyToken := [] }

/-- One version is loaded before `Subscribe` enumerates the assemblies, the other one while it
logs the first; its event comes through the handler. -/
def loadsAroundSubscribe : List (Process Unit Bool × Choice) :=
  (List.replicate 3 (.load false, .ok) ++ List.replicate 4 (.subscribe (), .ok) ++
    List.replicate 10 (.load true, .ok) ++ List.replicate 7 (.subscribe (), .ok))

/-- Both have their lines. -/
theorem assembliesLogged_twoVersions :
    ∃ c : Pool (Process Unit Bool) (Shared Unit Bool) (Pc Unit Bool),
      Execution.exec (Pool.next (step twoVersions)) loadsAroundSubscribe initial = some c ∧
        ∀ a, (linesOf twoVersions c.shared a).length = 1 := by
  have hrun : (Execution.exec (Pool.next (step twoVersions)) loadsAroundSubscribe
      (initial (ι := Unit))).isSome = true := by decide +kernel
  obtain ⟨c, hc⟩ := Option.isSome_iff_exists.mp hrun
  have hreturned : ∀ p, c.pc p = .returned := by
    intro p
    have hmap : (Execution.exec (Pool.next (step twoVersions)) loadsAroundSubscribe initial).map
        (fun c => c.pc p) = some .returned := by
      match p with
      | .subscribe () => rfl
      | .load false => rfl
      | .load true => rfl
    rw [hc] at hmap
    exact Option.some.inj hmap
  have hloaded : ∀ a, a ∈ c.shared.loaded := by
    have hmap : (Execution.exec (Pool.next (step twoVersions)) loadsAroundSubscribe
        (initial (ι := Unit))).map (fun c => c.shared.loaded) = some [false, true] := rfl
    rw [hc] at hmap
    have hlist : c.shared.loaded = [false, true] := Option.some.inj hmap
    rw [hlist]
    decide
  exact ⟨c, hc, fun a => (assembliesLogged_once twoVersions hc).2.2 (by decide)
    (fun p => .inr (hreturned p)) ⟨(), hreturned _⟩ a (hloaded a) (by cases a <;> decide)⟩

end Runs

end ElasticOpenTelemetry.LoadedAssemblyLogHelper
