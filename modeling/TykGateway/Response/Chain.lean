import Mathlib.Data.List.Count

/-! # The response middleware chain

`createResponseMiddlewareChain` offers the `ResponseTransformMiddleware` and
one `HeaderInjector` to `responseMWAppendEnabled`, then appends a processor
for each entry of `spec.ResponseProcessors` and for each custom `Response`
middleware, and ends the chain with the `ResponseCacheMiddleware`. A
`"header_injector"` entry appends the chain's `HeaderInjector` unless
`responseMWAppendEnabled` already did.

## Implementation notes

`responseMWAppendEnabled` and `responseProcessorByName` are declared outside
the modelled files: `enabled` says which handlers the former appends, and
`byName` which names the latter finds a processor for. A processor's `Init`
only logs its error, so it is left out.
-/

namespace TykGateway

/-- A response handler, by where the chain builder got it. -/
inductive Handler where
  | responseTransform
  /-- The one `HeaderInjector` the chain builder makes. -/
  | headerInjector
  /-- `responseProcessorByName(processorDetail.Name)`. -/
  | processor (name : String)
  /-- `responseProcessorByName(hook)`, initialised with the middleware at `path`. -/
  | customHook (hook path : String)
  | responseCache
  deriving DecidableEq, Repr

section Chain

variable (enabled : Handler → Bool) (byName : String → Bool)

/-- `responseMWAppendEnabled(&chain, mw)`: appends `mw` when it is enabled and
returns whether it did. -/
def responseMWAppendEnabled (chain : List Handler) (mw : Handler) : List Handler × Bool :=
  if enabled mw then (chain ++ [mw], true) else (chain, false)

/-- One iteration of the loop over `spec.ResponseProcessors`. -/
def addResponseProcessor (headerInjectorAdded : Bool) (chain : List Handler) (name : String) :
    List Handler :=
  if name = "header_injector" then
    if !headerInjectorAdded then chain ++ [.headerInjector] else chain
  else if byName name then chain ++ [.processor name]
  else chain

/-- The processor asked for a custom middleware: `goplugin_res_hook` for a
`.so` path, `custom_mw_res_hook` otherwise. -/
def customHookName (path : String) : String :=
  if path.endsWith ".so" then "goplugin_res_hook" else "custom_mw_res_hook"

/-- One iteration of the loop over the custom `Response` middlewares. -/
def addCustomMiddleware (chain : List Handler) (path : String) : List Handler :=
  if byName (customHookName path) then chain ++ [.customHook (customHookName path) path]
  else chain

/-- `createResponseMiddlewareChain`, on the names of `spec.ResponseProcessors`
and the paths of the custom middlewares. -/
def createResponseMiddlewareChain (responseProcessors middlewares : List String) :
    List Handler :=
  let chain := (responseMWAppendEnabled enabled [] .responseTransform).1
  let (chain, headerInjectorAdded) := responseMWAppendEnabled enabled chain .headerInjector
  let chain := responseProcessors.foldl (addResponseProcessor byName headerInjectorAdded) chain
  let chain := middlewares.foldl (addCustomMiddleware byName) chain
  chain ++ [.responseCache]

/-- Two `"header_injector"` entries and no auto-enabled injector. -/
theorem header_injector_appended_twice :
    createResponseMiddlewareChain (fun _ => false) (fun _ => true)
        ["header_injector", "header_injector"] [] =
      [.headerInjector, .headerInjector, .responseCache] := by
  decide

/-! ### The chain in closed form -/

/-- What one `ResponseProcessors` entry appends. -/
def entryHandler (headerInjectorAdded : Bool) (name : String) : Option Handler :=
  if name = "header_injector" then (if headerInjectorAdded then none else some .headerInjector)
  else if byName name then some (.processor name)
  else none

/-- What one custom middleware appends. -/
def customHandler (path : String) : Option Handler :=
  if byName (customHookName path) then some (.customHook (customHookName path) path) else none

theorem foldl_addResponseProcessor (added : Bool) :
    ∀ (names : List String) (chain : List Handler),
      names.foldl (addResponseProcessor byName added) chain =
        chain ++ names.filterMap (entryHandler byName added)
  | [], chain => by simp
  | n :: ns, chain => by
    rw [List.foldl_cons, foldl_addResponseProcessor added ns, List.filterMap_cons]
    unfold addResponseProcessor entryHandler
    by_cases hn : n = "header_injector"
    · cases added <;> simp [hn]
    · cases hb : byName n <;> simp [hn, hb]

theorem foldl_addCustomMiddleware :
    ∀ (paths : List String) (chain : List Handler),
      paths.foldl (addCustomMiddleware byName) chain =
        chain ++ paths.filterMap (customHandler byName)
  | [], chain => by simp
  | p :: ps, chain => by
    rw [List.foldl_cons, foldl_addCustomMiddleware ps, List.filterMap_cons]
    unfold addCustomMiddleware customHandler
    split_ifs <;> simp

/-- The chain is the enabled built-in handlers, then one processor per entry
of `ResponseProcessors` that yields one, then one per custom middleware that
yields one, in declared order, and last the cache writer. -/
theorem createResponseMiddlewareChain_eq (responseProcessors middlewares : List String) :
    createResponseMiddlewareChain enabled byName responseProcessors middlewares =
      [Handler.responseTransform, .headerInjector].filter enabled ++
        responseProcessors.filterMap (entryHandler byName (enabled .headerInjector)) ++
        middlewares.filterMap (customHandler byName) ++ [.responseCache] := by
  unfold createResponseMiddlewareChain responseMWAppendEnabled
  cases ht : enabled .responseTransform <;> cases hi : enabled .headerInjector <;>
    simp [foldl_addResponseProcessor, foldl_addCustomMiddleware, List.filter, ht, hi]

theorem count_filterMap_entryHandler (added : Bool) (names : List String) :
    (names.filterMap (entryHandler byName added)).count .headerInjector =
      if added then 0 else names.count "header_injector" := by
  induction names with
  | nil => cases added <;> rfl
  | cons n ns ih =>
    by_cases hn : n = "header_injector"
    · subst hn
      have he : entryHandler byName added "header_injector" =
          if added then none else some .headerInjector := by
        simp [entryHandler]
      cases added <;> simp [List.filterMap_cons, he, ih]
    · have he : entryHandler byName added n = if byName n then some (.processor n) else none := by
        simp [entryHandler, hn]
      cases hb : byName n <;> cases added <;> simp [List.filterMap_cons, he, hb, ih, Ne.symm hn]

theorem count_filterMap_entryHandler_cache (added : Bool) (names : List String) :
    (names.filterMap (entryHandler byName added)).count .responseCache = 0 := by
  refine List.count_eq_zero.mpr fun hm => ?_
  obtain ⟨n, -, hn⟩ := List.mem_filterMap.mp hm
  unfold entryHandler at hn
  split_ifs at hn <;> simp at hn

theorem customHandler_isHook {path : String} {h : Handler}
    (hp : customHandler byName path = some h) :
    ∃ hook, h = .customHook hook path := by
  unfold customHandler at hp
  split_ifs at hp
  exact ⟨_, (Option.some.inj hp).symm⟩

/-- For every list of entries, every list of custom middlewares and every
outcome of `responseMWAppendEnabled` and `responseProcessorByName`: the cache
writer ends the chain and occurs once; the `HeaderInjector` occurs once if it
was enabled and otherwise once per `"header_injector"` entry; and the chain
is the built-ins `responseMWAppendEnabled` enabled (`ResponseTransform`, then
`HeaderInjector`), the processors of the entries, those of the custom
middlewares, each group in declared order, and the cache writer. -/
theorem createResponseMiddlewareChain_shape (responseProcessors middlewares : List String) :
    (createResponseMiddlewareChain enabled byName responseProcessors middlewares).getLast? =
        some .responseCache ∧
      (createResponseMiddlewareChain enabled byName responseProcessors middlewares).count
        .responseCache = 1 ∧
      (createResponseMiddlewareChain enabled byName responseProcessors middlewares).count
        .headerInjector =
          (if enabled .headerInjector then 1 else responseProcessors.count "header_injector") ∧
      createResponseMiddlewareChain enabled byName responseProcessors middlewares =
        [Handler.responseTransform, .headerInjector].filter enabled ++
          responseProcessors.filterMap (entryHandler byName (enabled .headerInjector)) ++
          middlewares.filterMap (customHandler byName) ++ [.responseCache] := by
  have hcustom : ∀ h, (∀ hook path, h ≠ .customHook hook path) →
      (middlewares.filterMap (customHandler byName)).count h = 0 := fun h hh =>
    List.count_eq_zero.mpr fun hm => by
      obtain ⟨p, -, hp⟩ := List.mem_filterMap.mp hm
      obtain ⟨hook, rfl⟩ := customHandler_isHook byName hp
      exact hh hook p rfl
  rw [createResponseMiddlewareChain_eq]
  refine ⟨by simp, ?_, ?_, rfl⟩
  · simp only [List.count_append, count_filterMap_entryHandler_cache,
      hcustom .responseCache fun _ _ => by simp]
    cases ht : enabled .responseTransform <;> cases hi : enabled .headerInjector <;>
      simp [List.filter, ht, hi]
  · simp only [List.count_append, count_filterMap_entryHandler,
      hcustom .headerInjector fun _ _ => by simp]
    cases ht : enabled .responseTransform <;> cases hi : enabled .headerInjector <;>
      simp [List.filter, ht, hi]

end Chain

end TykGateway
