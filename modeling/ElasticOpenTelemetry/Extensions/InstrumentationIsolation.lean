import ElasticOpenTelemetry.Extensions.InstrumentationRegistration
import Mathlib.Algebra.BigOperators.Group.List.Basic

/-!
# Instrumentations do not depend on one another

`configureBuilder_isolated` states that an assembly that reflection does not find, or whose methods
throw or register something else, changes nothing about a run of `ConfigureBuilder` but what is
about that assembly. `instrumentation_once` states for the native instrumentations of .NET 9 when
they are added, and when the contributed ones are instead.

Both rest on what `ConfigureBuilder` emits (`emits_configureBuilder`): the events of an entry
depend on the entry alone, and counting what passes a test adds up over the parts.
-/

namespace ElasticOpenTelemetry.InstrumentationRegistration

open DotNet Faults

variable {R : Type}

/-! ### What an instrumentation has an influence on -/

/-- All entries. -/
def allEntries : List InstrumentationAssemblyInfo :=
  getReflectionInstrumentationAssemblies ++ getMetricsInstrumentationAssembliesInfo ++
    getContribResourceDetectors

/-- The names that an assembly has in messages. -/
def namesOf (assemblyName : Str) : List Str :=
  assemblyName :: (allEntries.filter (·.assemblyName = assemblyName)).map (·.name)

def Message.isAbout (assemblyName : Str) : Message → Bool
  | unableToFindType _ name => name = assemblyName
  | unableToFindMethodWarning _ _ name => name = assemblyName
  | addedInstrumentationViaReflection name | addedResourceDetectorViaReflection name
  | dynamicInstrumentationFailed name => name ∈ namesOf assemblyName
  | _ => false

/-- The event is about this assembly: one of its methods is invoked, has registered something, or
is in a message. -/
def Event.isAbout (assemblyName : Str) : Event R → Bool
  | registration (.byMethod method _) => method.assemblyName = assemblyName
  | invoke method => method.assemblyName = assemblyName
  | message m => m.isAbout assemblyName
  | _ => false

/-- What is not about the assembly. -/
def withoutAssembly (assemblyName : Str) (events : List (Event R)) : List (Event R) :=
  events.filter fun x => !x.isAbout assemblyName

namespace Environment

variable (env other : Environment R) (A : Str)

/-- The environment, but for one assembly. -/
def withAssembly : Environment R :=
  { env with
    getType := fun fullyQualifiedType assemblyName =>
      if assemblyName = A then other.getType fullyQualifiedType assemblyName
      else env.getType fullyQualifiedType assemblyName
    getMethod := fun method =>
      if method.assemblyName = A then other.getMethod method else env.getMethod method
    invoke := fun method =>
      if method.assemblyName = A then other.invoke method else env.invoke method }

variable {A}

theorem name_mem_namesOf {assemblyInfo : InstrumentationAssemblyInfo}
    (h : assemblyInfo ∈ allEntries) :
    assemblyInfo.name ∈ namesOf assemblyInfo.assemblyName :=
  List.mem_cons_of_mem _ (List.mem_map_of_mem
    (List.mem_filter.mpr ⟨h, decide_eq_true rfl⟩))

theorem withoutAssembly_message {m : Message} (h : m.isAbout A = true) :
    withoutAssembly A [Event.message (R := R) m] = [] := by
  rw [withoutAssembly, List.filter_cons_of_neg, List.filter_nil]
  rw [Event.isAbout, h]
  decide

theorem addedEvents_withAssembly {method : Method} (h : method.assemblyName ≠ A)
    (added failed : Message) :
    (env.withAssembly other A).addedEvents method added failed =
      env.addedEvents method added failed := by
  simp only [addedEvents, invocationEvents, withAssembly, if_neg h]

/-- Everything about an invocation is about the assembly. -/
theorem withoutAssembly_addedEvents {method : Method} {added failed : Message}
    (hadded : added.isAbout method.assemblyName = true)
    (hfailed : failed.isAbout method.assemblyName = true) :
    withoutAssembly method.assemblyName (env.addedEvents method added failed) = [] := by
  refine List.filter_eq_nil_iff.mpr fun x hx => ?_
  rw [addedEvents, invocationEvents, List.cons_append, List.mem_cons, List.mem_append,
    List.mem_singleton] at hx
  rcases hx with rfl | hx | rfl
  · simp [Event.isAbout]
  · obtain ⟨r, -, rfl⟩ := List.mem_map.mp hx
    simp [Event.isAbout]
  · rw [Event.isAbout]
    split
    · rw [hadded]
      decide
    · rw [hfailed]
      decide

theorem entryEvents_withAssembly (builder : BuilderType)
    {assemblyInfo : InstrumentationAssemblyInfo} (h : assemblyInfo.assemblyName ≠ A) :
    (env.withAssembly other A).entryEvents builder assemblyInfo =
      env.entryEvents builder assemblyInfo := by
  have hmethod : (methodOf builder assemblyInfo).assemblyName ≠ A := h
  simp only [entryEvents, env.addedEvents_withAssembly other hmethod]
  simp only [withAssembly, if_neg h, if_neg hmethod]
  rfl

theorem withoutAssembly_entryEvents (builder : BuilderType)
    {assemblyInfo : InstrumentationAssemblyInfo} (h : assemblyInfo ∈ allEntries) :
    withoutAssembly assemblyInfo.assemblyName (env.entryEvents builder assemblyInfo) = [] := by
  have hname : decide (assemblyInfo.name ∈ namesOf assemblyInfo.assemblyName) = true :=
    decide_eq_true (name_mem_namesOf h)
  rw [entryEvents]
  cases env.getType assemblyInfo.fullyQualifiedType assemblyInfo.assemblyName with
  | throws => exact withoutAssembly_message hname
  | null => exact withoutAssembly_message (decide_eq_true rfl)
  | found =>
    cases env.getMethod (methodOf builder assemblyInfo) with
    | throws => exact withoutAssembly_message hname
    | null => exact withoutAssembly_message (decide_eq_true rfl)
    | found =>
      refine env.withoutAssembly_addedEvents ?_ hname
      split
      · exact hname
      · exact hname

theorem withoutAssembly_append (xs ys : List (Event R)) :
    withoutAssembly A (xs ++ ys) = withoutAssembly A xs ++ withoutAssembly A ys :=
  List.filter_append ..

/-- The entries of a table, but for those of the assembly. -/
theorem withoutAssembly_reflectionEvents (builder : BuilderType)
    {assemblyInfos : List InstrumentationAssemblyInfo} (h : assemblyInfos ⊆ allEntries) :
    withoutAssembly A ((env.withAssembly other A).reflectionEvents builder assemblyInfos) =
      withoutAssembly A (env.reflectionEvents builder assemblyInfos) := by
  have hskip : (env.withAssembly other A).options = env.options := rfl
  rw [reflectionEvents, reflectionEvents, hskip]
  split
  · rfl
  · refine filter_flatMap_congr fun assemblyInfo hmem => ?_
    by_cases hA : assemblyInfo.assemblyName = A
    · subst hA
      exact .inr ⟨withoutAssembly_entryEvents _ builder (h hmem),
        withoutAssembly_entryEvents _ builder (h hmem)⟩
    · exact .inl (env.entryEvents_withAssembly other builder hA)

/-- Everything that is emitted for ASP.NET Core is about its assembly. -/
theorem withoutAssembly_aspNetCoreEvents_self :
    withoutAssembly aspNetCoreAssemblyName env.aspNetCoreEvents = [] := by
  have hname : decide (aspNetCoreAssemblyName ∈ namesOf aspNetCoreAssemblyName) = true :=
    decide_eq_true (List.mem_cons_self ..)
  have htype : decide (aspNetCoreAssemblyName = aspNetCoreAssemblyName) = true :=
    decide_eq_true rfl
  rw [aspNetCoreEvents]
  split
  · rfl
  · split
    · exact withoutAssembly_message hname
    · exact withoutAssembly_message hname
    · exact withoutAssembly_message htype
    · exact withoutAssembly_message htype
    · split
      · exact withoutAssembly_message hname
      · exact withoutAssembly_message htype
      · change withoutAssembly aspNetCoreMethod.assemblyName _ = []
        exact env.withoutAssembly_addedEvents hname hname

theorem withoutAssembly_aspNetCoreEvents :
    withoutAssembly A (env.withAssembly other A).aspNetCoreEvents =
      withoutAssembly A env.aspNetCoreEvents := by
  by_cases hA : aspNetCoreAssemblyName = A
  · subst hA
    rw [withoutAssembly_aspNetCoreEvents_self, withoutAssembly_aspNetCoreEvents_self]
  · have hmethod : aspNetCoreMethod.assemblyName ≠ A := hA
    refine congrArg _ ?_
    simp only [aspNetCoreEvents, env.addedEvents_withAssembly other hmethod]
    simp only [withAssembly, if_neg hA, if_neg hmethod]

/-- The defaults, but for what is about the assembly. -/
theorem withoutAssembly_defaultsEvents (signal : Signal) :
    withoutAssembly A ((env.withAssembly other A).defaultsEvents signal) =
      withoutAssembly A (env.defaultsEvents signal) := by
  have hscans : (env.withAssembly other A).scansAssemblies = env.scansAssemblies := rfl
  cases signal with
  | traces =>
    have hscan : withoutAssembly A (env.withAssembly other A).tracerScanEvents =
        withoutAssembly A env.tracerScanEvents := by
      rw [tracerScanEvents, tracerScanEvents, hscans]
      split
      · rw [withoutAssembly_append, withoutAssembly_append,
          env.withoutAssembly_aspNetCoreEvents other,
          env.withoutAssembly_reflectionEvents other _ fun _ hmem =>
            List.mem_append_left _ (List.mem_append_left _ hmem)]
      · rfl
    simp only [defaultsEvents, tracerEvents, withoutAssembly_append, hscan]
    rfl
  | metrics =>
    have hscan : withoutAssembly A (env.withAssembly other A).meterScanEvents =
        withoutAssembly A env.meterScanEvents := by
      rw [meterScanEvents, meterScanEvents, hscans]
      split
      · exact env.withoutAssembly_reflectionEvents other _ fun _ hmem =>
          List.mem_append_left _ (List.mem_append_right _ hmem)
      · rfl
    simp only [defaultsEvents, meterDefaultsEvents, withoutAssembly_append, hscan]
    rfl
  | logs => rfl

/-- **An instrumentation has no influence on the others.** Whatever reflection finds of an assembly
and whatever its methods do, `ConfigureBuilder` ends in the same way, and registers, invokes and
logs the same, in the same order, but for what is about that assembly. -/
theorem configureBuilder_isolated (env other : Environment R) (A : Str) (signal : Signal) :
    let run := (env.configureBuilder signal).run []
    let run' := ((env.withAssembly other A).configureBuilder signal).run []
    run'.1 = run.1 ∧ withoutAssembly A run'.2 = withoutAssembly A run.2 := by
  simp only [run_configureBuilder, withoutAssembly_append,
    env.withoutAssembly_defaultsEvents other]
  exact ⟨rfl, rfl⟩

end Environment

/-! ### How often an instrumentation is added -/

/-- The table of a signal. -/
def entries : Signal → List InstrumentationAssemblyInfo
  | .traces => getReflectionInstrumentationAssemblies
  | .metrics => getMetricsInstrumentationAssembliesInfo
  | .logs => []

/-- The builder of a signal. -/
def builderOf : Signal → BuilderType
  | .traces => .tracerProviderBuilder
  | .metrics => .meterProviderBuilder
  | .logs => .loggerProviderBuilder

def Event.isInvoke (method : Method) : Event R → Bool
  | invoke m => m = method
  | _ => false

/-- The native instrumentations for which there are contributed ones. -/
inductive Native
  | httpTraces
  | httpMetrics
  | runtimeMetrics

namespace Native

def signal : Native → Signal
  | httpTraces => .traces
  | httpMetrics | runtimeMetrics => .metrics

/-- The file that shows that the contributed instrumentation is deployed. -/
def file : Native → Str
  | httpTraces | httpMetrics => Environment.httpAssembly
  | runtimeMetrics => Environment.runtimeAssembly

def contributed : Native → InstrumentationAssemblyInfo
  | httpTraces => httpTraceInstrumentation
  | httpMetrics => httpMetricsInstrumentation
  | runtimeMetrics => runtimeInstrumentation

/-- The method of the contributed instrumentation. -/
def method (n : Native) : Method := Environment.methodOf (builderOf n.signal) n.contributed

/-- The event registers the native instrumentation. -/
def isAdded : Native → Event R → Bool
  | httpTraces, .registration (.addSource name) => name = Environment.systemNetHttp
  | httpMetrics, .registration (.addMeter name) => name = Environment.systemNetHttp
  | runtimeMetrics, .registration (.addMeter name) => name = Environment.systemRuntime
  | _, _ => false

end Native

namespace Environment

variable (env : Environment R)

/-- Reflection finds the method. -/
def finds (method : Method) : Bool :=
  env.getType method.fullyQualifiedType method.assemblyName = .found &&
    env.getMethod method = .found

theorem countP_addedEvents (method method' : Method) (added failed : Message) :
    (env.addedEvents method' added failed).countP (Event.isInvoke method) =
      if method' = method then 1 else 0 := by
  have hregistrations : ((env.invoke method').registrations.map fun r =>
      Event.registration (.byMethod method' r)).countP (Event.isInvoke method) = 0 := by
    rw [List.countP_map]
    exact List.countP_eq_zero.mpr fun _ _ => nofun
  rw [addedEvents, invocationEvents, List.cons_append, List.countP_cons, List.countP_append,
    hregistrations]
  simp [Event.isInvoke]

theorem countP_entryEvents (method : Method) (builder : BuilderType)
    (assemblyInfo : InstrumentationAssemblyInfo) :
    (env.entryEvents builder assemblyInfo).countP (Event.isInvoke method) =
      if methodOf builder assemblyInfo = method ∧ env.finds method = true then 1 else 0 := by
  have hfinds : methodOf builder assemblyInfo = method → env.finds method =
      (decide (env.getType assemblyInfo.fullyQualifiedType assemblyInfo.assemblyName = .found) &&
        decide (env.getMethod (methodOf builder assemblyInfo) = .found)) := by
    rintro rfl
    rfl
  rw [entryEvents]
  cases htype : env.getType assemblyInfo.fullyQualifiedType assemblyInfo.assemblyName with
  | throws | null =>
    refine (if_neg fun h => ?_).symm
    rw [hfinds h.1, htype] at h
    cases h.2
  | found =>
    cases hget : env.getMethod (methodOf builder assemblyInfo) with
    | throws | null =>
      refine (if_neg fun h => ?_).symm
      rw [hfinds h.1, htype, hget] at h
      cases h.2
    | found =>
      refine (env.countP_addedEvents method _ _ _).trans ?_
      by_cases hmethod : methodOf builder assemblyInfo = method
      · rw [if_pos hmethod, if_pos ⟨hmethod, by rw [hfinds hmethod, htype, hget]; rfl⟩]
      · rw [if_neg hmethod, if_neg fun h => hmethod h.1]

/-- No two entries of a table have methods of the same name. -/
theorem nodup_instrumentationMethod (signal : Signal) :
    ((entries signal).map (·.instrumentationMethod)).Nodup := by
  cases signal <;> decide +kernel

theorem methodOf_injective {signal : Signal} {d d' : InstrumentationAssemblyInfo}
    (hd : d ∈ entries signal) (hd' : d' ∈ entries signal)
    (h : methodOf (builderOf signal) d = methodOf (builderOf signal) d') : d = d' :=
  List.inj_on_of_nodup_map (nodup_instrumentationMethod signal) hd hd'
    (congrArg Method.instrumentationMethod h)

/-- Scanning invokes the method of an entry once, if it is found. -/
theorem countP_reflectionEvents {signal : Signal} {d : InstrumentationAssemblyInfo}
    (hd : d ∈ entries signal) :
    (env.reflectionEvents (builderOf signal) (entries signal)).countP
        (Event.isInvoke (methodOf (builderOf signal) d)) =
      if env.options.skipInstrumentationAssemblyScanning = false ∧
        env.finds (methodOf (builderOf signal) d) = true then 1 else 0 := by
  rw [reflectionEvents]
  cases env.options.skipInstrumentationAssemblyScanning with
  | true => rfl
  | false =>
    have hothers : ∀ d' ≠ d, d' ∈ entries signal →
        (env.entryEvents (builderOf signal) d').countP
          (Event.isInvoke (methodOf (builderOf signal) d)) = 0 := fun d' hne hd' => by
      rw [countP_entryEvents, if_neg fun h => hne (methodOf_injective hd' hd h.1)]
    have hsum := List.sum_map_eq_nsmul_single d _ hothers
    rw [List.count_eq_one_of_mem (nodup_instrumentationMethod signal).of_map hd, one_nsmul,
      countP_entryEvents] at hsum
    rw [if_neg Bool.false_ne_true, List.countP_flatMap]
    simpa [Function.comp_def] using hsum

/-! #### The rest of the events -/

/-- A test that only the invocation of a method or something native passes. -/
structure Event.Selects (q : Event R → Bool) : Prop where
  message : ∀ m, q (.message m) = false
  byMethod : ∀ method r, q (.registration (.byMethod method r)) = false
  byUser : ∀ r, q (.registration (.byUser r)) = false
  configureResource : q (.registration .configureResource) = false
  configureOtlpExporterOptions : q (.registration .configureOtlpExporterOptions) = false
  configureMetricReaderOptions : q (.registration .configureMetricReaderOptions) = false
  configureLoggerOptions : q (.registration .configureLoggerOptions) = false
  otlpExporter : q (.registration .otlpExporter) = false

variable {q : Event R → Bool}

theorem countP_resourceAndOptionsEvents (hq : Event.Selects q) (signal : Str) :
    (env.resourceAndOptionsEvents signal).countP q = 0 := by
  rw [resourceAndOptionsEvents]
  split <;> simp [hq.message, hq.configureResource, hq.configureOtlpExporterOptions]

theorem countP_callbackEvents (hq : Event.Selects q) : env.callbackEvents.countP q = 0 := by
  rw [callbackEvents]
  split <;> simp [hq.message, hq.byUser]

theorem countP_finalEvents (hq : Event.Selects q) : env.finalEvents.countP q = 0 := by
  rw [finalEvents, exporterEvents]
  split_ifs <;> simp [hq.message, hq.otlpExporter]

theorem countP_processorsEvents (hq : Event.Selects q) : env.processorsEvents.countP q = 0 := by
  rw [processorsEvents]
  split <;> simp [hq.message]

theorem countP_nativeEvents (hq : Event.Selects q) (file : Str) (found : Message)
    (native : List (Event R)) :
    (env.nativeEvents file found native).countP q =
      if env.target = .net9 ∧ env.instrumentationAssemblyExists file = false then native.countP q
      else 0 := by
  rw [nativeEvents]
  by_cases hnet : env.target = .net9
  · cases env.instrumentationAssemblyExists file with
    | true =>
      have hnot : ¬(env.target = .net9 ∧ true = false) := fun h => Bool.noConfusion h.2
      rw [if_pos hnet, if_pos rfl, if_neg hnot]
      split <;> simp [hq.message]
    | false => simp [hnet]
  · simp [hnet]

theorem countP_configureBuilder (hq : Event.Selects q) (signal : Signal) :
    ((env.configureBuilder signal).run []).2.countP q =
      (env.defaultsEvents signal).countP q := by
  rw [run_configureBuilder, List.countP_append, List.countP_append, env.countP_callbackEvents hq,
    env.countP_finalEvents hq]
  rfl

theorem selects_isInvoke (method : Method) : Event.Selects (Event.isInvoke (R := R) method) :=
  ⟨fun _ => rfl, fun _ _ => rfl, fun _ => rfl, rfl, rfl, rfl, rfl, rfl⟩

theorem selects_isAdded (n : Native) : Event.Selects (n.isAdded (R := R)) := by
  cases n <;> exact ⟨fun _ => rfl, fun _ _ => rfl, fun _ => rfl, rfl, rfl, rfl, rfl, rfl⟩

/-- Scanning adds nothing native. -/
theorem countP_isAdded_addedEvents (n : Native) (method : Method) (added failed : Message) :
    (env.addedEvents method added failed).countP n.isAdded = 0 := by
  rw [addedEvents, invocationEvents, List.cons_append, List.countP_cons, List.countP_append,
    List.countP_map]
  cases n <;> simp [Native.isAdded]

theorem countP_isAdded_entryEvents (n : Native) (builder : BuilderType)
    (assemblyInfo : InstrumentationAssemblyInfo) :
    (env.entryEvents builder assemblyInfo).countP n.isAdded = 0 := by
  have hmessage : ∀ m, [Event.message (R := R) m].countP n.isAdded = 0 := fun m => by
    rw [List.countP_singleton, (selects_isAdded n).message m]
    rfl
  rw [entryEvents]
  cases env.getType assemblyInfo.fullyQualifiedType assemblyInfo.assemblyName with
  | throws | null => exact hmessage _
  | found =>
    cases env.getMethod (methodOf builder assemblyInfo) with
    | throws | null => exact hmessage _
    | found => exact env.countP_isAdded_addedEvents n _ _ _

theorem countP_isAdded_reflectionEvents (n : Native) (builder : BuilderType)
    (assemblyInfos : List InstrumentationAssemblyInfo) :
    (env.reflectionEvents builder assemblyInfos).countP n.isAdded = 0 := by
  rw [reflectionEvents]
  split
  · cases n <;> rfl
  · rw [List.countP_flatMap]
    refine List.sum_eq_zero fun c hc => ?_
    obtain ⟨assemblyInfo, -, rfl⟩ := List.mem_map.mp hc
    exact env.countP_isAdded_entryEvents n builder assemblyInfo

theorem countP_isAdded_aspNetCoreEvents (n : Native) :
    env.aspNetCoreEvents.countP n.isAdded = 0 := by
  have hmessage : ∀ m, [Event.message (R := R) m].countP n.isAdded = 0 := fun m => by
    rw [List.countP_singleton, (selects_isAdded n).message m]
    rfl
  rw [aspNetCoreEvents]
  split
  · rfl
  · split
    · exact hmessage _
    · exact hmessage _
    · exact hmessage _
    · exact hmessage _
    · split
      · exact hmessage _
      · exact hmessage _
      · exact env.countP_isAdded_addedEvents n _ _ _

/-- The special case for ASP.NET Core invokes no method of the tables. -/
theorem countP_isInvoke_aspNetCoreEvents {method : Method} (h : method.takesOptions = false) :
    env.aspNetCoreEvents.countP (Event.isInvoke method) = 0 := by
  have hne : aspNetCoreMethod ≠ method := by
    rintro rfl
    cases h
  rw [aspNetCoreEvents]
  split
  · rfl
  · split
    · rfl
    · rfl
    · rfl
    · rfl
    · split
      · rfl
      · rfl
      · rw [countP_addedEvents, if_neg hne]

theorem countP_isAdded_sourceEvents (n : Native) (name : Str) :
    (sourceEvents name : List (Event R)).countP n.isAdded =
      if n.signal = .traces ∧ name = systemNetHttp then 1 else 0 := by
  cases n <;> simp [sourceEvents, Native.isAdded, Native.signal, List.countP_cons]

theorem countP_isAdded_meterEvents (n : Native) (name : Str) :
    (meterEvents name : List (Event R)).countP n.isAdded =
      match n with
      | .httpTraces => 0
      | .httpMetrics => if name = systemNetHttp then 1 else 0
      | .runtimeMetrics => if name = systemRuntime then 1 else 0 := by
  cases n <;> simp [meterEvents, Native.isAdded, List.countP_cons]

/-- The meters of ASP.NET Core are others. -/
theorem countP_isAdded_aspNetCoreMeterEvents (n : Native) :
    env.aspNetCoreMeterEvents.countP n.isAdded = 0 := by
  have hnames : ∀ name ∈ aspNetCoreMeters, name ≠ systemNetHttp ∧ name ≠ systemRuntime := by
    decide +kernel
  rw [aspNetCoreMeterEvents]
  split
  · rw [List.countP_flatMap]
    refine List.sum_eq_zero fun c hc => ?_
    obtain ⟨name, hname, rfl⟩ := List.mem_map.mp hc
    rw [Function.comp_apply, countP_isAdded_meterEvents]
    cases n with
    | httpTraces => rfl
    | httpMetrics => exact if_neg (hnames name hname).1
    | runtimeMetrics => exact if_neg (hnames name hname).2
  · rfl

theorem countP_isAdded_defaultsEvents (n : Native) :
    (env.defaultsEvents n.signal).countP n.isAdded =
      if env.target = .net9 ∧ env.instrumentationAssemblyExists n.file = false then 1 else 0 := by
  have hq := selects_isAdded (R := R) n
  have htransport : elasticTransport ≠ systemNetHttp := by decide +kernel
  have hresolution : systemNetNameResolution ≠ systemNetHttp ∧
      systemNetNameResolution ≠ systemRuntime := by decide +kernel
  have hother : systemNetHttp ≠ systemRuntime := by decide +kernel
  have htracer : env.tracerScanEvents.countP n.isAdded = 0 := by
    rw [tracerScanEvents]
    split
    · rw [List.countP_append, countP_isAdded_reflectionEvents, countP_isAdded_aspNetCoreEvents]
    · rfl
  have hmeter : env.meterScanEvents.countP n.isAdded = 0 := by
    rw [meterScanEvents]
    split
    · exact env.countP_isAdded_reflectionEvents n _ _
    · rfl
  have hreader : [Event.registration (R := R) .configureMetricReaderOptions].countP n.isAdded =
      0 := by
    cases n <;> rfl
  have hmetrics : env.meterDefaultsEvents.countP n.isAdded =
      (if env.target = .net9 ∧ env.instrumentationAssemblyExists httpAssembly = false then
          (meterEvents systemNetHttp : List (Event R)).countP n.isAdded else 0) +
        ((if env.target = .net9 ∧ env.instrumentationAssemblyExists runtimeAssembly = false then
            (meterEvents systemRuntime : List (Event R)).countP n.isAdded else 0) +
          (meterEvents systemNetNameResolution : List (Event R)).countP n.isAdded) := by
    rw [meterDefaultsEvents, List.countP_append, List.countP_append, List.countP_append,
      List.countP_append, List.countP_append, List.countP_append,
      env.countP_resourceAndOptionsEvents hq, hreader, env.countP_nativeEvents hq,
      env.countP_nativeEvents hq, countP_isAdded_aspNetCoreMeterEvents, hmeter, Nat.zero_add,
      Nat.zero_add, Nat.zero_add, Nat.add_zero]
  cases n with
  | httpTraces =>
    change env.tracerEvents.countP _ =
      if env.target = .net9 ∧ env.instrumentationAssemblyExists httpAssembly = false then 1 else 0
    rw [tracerEvents, List.countP_append, List.countP_append, List.countP_append,
      List.countP_append, env.countP_resourceAndOptionsEvents hq, env.countP_nativeEvents hq,
      htracer, env.countP_processorsEvents hq, countP_isAdded_sourceEvents,
      countP_isAdded_sourceEvents]
    simp only [htransport, and_false, if_false, Nat.zero_add, Nat.add_zero]
    rfl
  | httpMetrics =>
    refine hmetrics.trans ?_
    rw [countP_isAdded_meterEvents, countP_isAdded_meterEvents, countP_isAdded_meterEvents]
    simp only [hresolution.1, hother.symm, if_true, if_false, ite_self, Nat.add_zero]
    rfl
  | runtimeMetrics =>
    refine hmetrics.trans ?_
    rw [countP_isAdded_meterEvents, countP_isAdded_meterEvents, countP_isAdded_meterEvents]
    simp only [hresolution.2, hother, if_true, if_false, ite_self, Nat.zero_add, Nat.add_zero]
    rfl

/-- Nothing but scanning invokes a method. -/
theorem countP_isInvoke_defaultsEvents {signal : Signal} {d : InstrumentationAssemblyInfo}
    (hd : d ∈ entries signal) :
    (env.defaultsEvents signal).countP (Event.isInvoke (methodOf (builderOf signal) d)) =
      if env.scansAssemblies = true ∧ env.options.skipInstrumentationAssemblyScanning = false ∧
        env.finds (methodOf (builderOf signal) d) = true then 1 else 0 := by
  have hq := selects_isInvoke (R := R) (methodOf (builderOf signal) d)
  have hscan := env.countP_reflectionEvents hd
  cases signal with
  | traces =>
    have htracer : env.tracerScanEvents.countP
        (Event.isInvoke (methodOf (builderOf .traces) d)) =
          if env.scansAssemblies = true ∧
            env.options.skipInstrumentationAssemblyScanning = false ∧
              env.finds (methodOf (builderOf .traces) d) = true then 1 else 0 := by
      rw [tracerScanEvents]
      cases env.scansAssemblies with
      | true =>
        rw [if_pos rfl, List.countP_append, countP_isInvoke_aspNetCoreEvents _ rfl]
        refine hscan.trans ?_
        simp
      | false => simp
    rw [defaultsEvents, tracerEvents, List.countP_append, List.countP_append, List.countP_append,
      List.countP_append, env.countP_resourceAndOptionsEvents hq, env.countP_nativeEvents hq,
      htracer, env.countP_processorsEvents hq]
    simp [sourceEvents, Event.isInvoke]
  | metrics =>
    have hmeters : env.aspNetCoreMeterEvents.countP
        (Event.isInvoke (methodOf (builderOf .metrics) d)) = 0 := by
      rw [aspNetCoreMeterEvents]
      split <;> rfl
    have hmeter : env.meterScanEvents.countP
        (Event.isInvoke (methodOf (builderOf .metrics) d)) =
          if env.scansAssemblies = true ∧
            env.options.skipInstrumentationAssemblyScanning = false ∧
              env.finds (methodOf (builderOf .metrics) d) = true then 1 else 0 := by
      rw [meterScanEvents]
      cases env.scansAssemblies with
      | true =>
        refine hscan.trans ?_
        simp
      | false => simp
    rw [defaultsEvents, meterDefaultsEvents, List.countP_append, List.countP_append,
      List.countP_append, List.countP_append, List.countP_append, List.countP_append,
      env.countP_resourceAndOptionsEvents hq, env.countP_nativeEvents hq,
      env.countP_nativeEvents hq, hmeters, hmeter]
    simp [meterEvents, Event.isInvoke]
  | logs => cases hd

/-- **An instrumentation is added natively or by its contributed assembly.** In every environment,
the native one is added once if the package is compiled for .NET 9 and the file of the other one is
not beside the application, and else not at all; the method of the other one is invoked once if
dynamic code is supported (which only the targets with `NET` ask for), scanning is not to be
skipped, and reflection finds the method, and else not at all. So on .NET 9 there is exactly one of
them as long as dynamic code is supported, scanning is not to be skipped, and reflection finds the
method exactly where the file is. -/
theorem instrumentation_once (n : Native) :
    let events := ((env.configureBuilder n.signal).run []).2
    let native := events.countP n.isAdded
    let contributed := events.countP (Event.isInvoke n.method)
    (native = if env.target = .net9 ∧ env.instrumentationAssemblyExists n.file = false then 1
      else 0) ∧
    (contributed = if env.scansAssemblies = true ∧
      env.options.skipInstrumentationAssemblyScanning = false ∧ env.finds n.method = true then 1
      else 0) ∧
    (env.target = .net9 → env.isDynamicCodeSupported = true →
      env.options.skipInstrumentationAssemblyScanning = false →
      env.finds n.method = env.instrumentationAssemblyExists n.file →
        native + contributed = 1) := by
  intro events native contributed
  have hnative : native = if env.target = .net9 ∧
      env.instrumentationAssemblyExists n.file = false then 1 else 0 := by
    rw [← env.countP_isAdded_defaultsEvents n]
    exact env.countP_configureBuilder (selects_isAdded n) n.signal
  have hmem : n.contributed ∈ entries n.signal := by
    cases n <;> decide +kernel
  have hcontributed : contributed = if env.scansAssemblies = true ∧
      env.options.skipInstrumentationAssemblyScanning = false ∧ env.finds n.method = true then 1
      else 0 := by
    rw [Native.method, ← env.countP_isInvoke_defaultsEvents hmem]
    exact env.countP_configureBuilder (selects_isInvoke _) n.signal
  refine ⟨hnative, hcontributed, fun hnet hdynamic hskip hfinds => ?_⟩
  have hscans : env.scansAssemblies = true := by
    rw [scansAssemblies, hdynamic, Bool.or_true]
  rw [hnative, hcontributed, hnet, hscans, hskip, hfinds]
  cases env.instrumentationAssemblyExists n.file <;> rfl

end Environment

end ElasticOpenTelemetry.InstrumentationRegistration
