import Mathlib.Data.List.Basic

/-! # Loading the custom middleware of an API

`loadCustomMiddleware` collects the custom middleware of one API spec into the
slot lists the middleware chain is built from. The declared `AuthCheck` hook
is taken when it is enabled and named, the enabled declared `Pre` and `Post`
definitions are appended to their slots, and then every `*.js` file of the
`pre`, `auth`, `post_auth` and `post` folders of the API's middleware
directory is turned into a definition and appended to its slot (the `auth`
folder replaces the auth hook instead). Last come the driver, the enabled
`PostKeyAuth` hooks and the enabled `Response` hooks. Every path that a
JavaScript engine is to load is collected in `mwPaths` on the way.

## Implementation notes

`apidef.MiddlewareDefinition` and `apidef.MiddlewareSection` are declared
outside the modelled files; only the fields this function reads or sets are
kept. What `filepath.Glob` lists for a folder is a parameter `glob`, given
the folder's name; the glob pattern built with `filepath.Join` and the ignored
glob error are left out (an error lists nothing). `filepath.Base` is modelled
for `/`-separated paths. Logging is left out.
-/

namespace TykGateway

/-- The fields of `apidef.MiddlewareDefinition` that `loadCustomMiddleware`
reads or sets. -/
structure MiddlewareDefinition where
  name : String
  path : String
  disabled : Bool
  requireSession : Bool
  deriving DecidableEq, Repr, Inhabited

/-- The fields of `apidef.MiddlewareSection` that `loadCustomMiddleware`
reads. -/
structure MiddlewareSection where
  pre : List MiddlewareDefinition
  post : List MiddlewareDefinition
  postKeyAuth : List MiddlewareDefinition
  authCheck : MiddlewareDefinition
  response : List MiddlewareDefinition
  driver : String
  deriving DecidableEq, Repr

/-- The seven results of `loadCustomMiddleware`, in the order it returns them. -/
structure LoadedMiddleware where
  mwPaths : List String
  authCheck : MiddlewareDefinition
  pre : List MiddlewareDefinition
  post : List MiddlewareDefinition
  postKeyAuth : List MiddlewareDefinition
  response : List MiddlewareDefinition
  driver : String
  deriving DecidableEq, Repr

/-- The slices of definitions that `loadCustomMiddleware` appends to. -/
inductive Slot where
  | pre | post | postKeyAuth | response
  deriving DecidableEq, Repr

namespace LoadedMiddleware

/-- The results as declared at the top of the function. -/
def empty : LoadedMiddleware := ⟨[], default, [], [], [], [], ""⟩

/-- `mwPaths = append(mwPaths, paths...)` followed by `slot = append(slot, ds...)`. -/
def append (r : LoadedMiddleware) (paths : List String) :
    Slot → List MiddlewareDefinition → LoadedMiddleware
  | .pre, ds => { r with mwPaths := r.mwPaths ++ paths, pre := r.pre ++ ds }
  | .post, ds => { r with mwPaths := r.mwPaths ++ paths, post := r.post ++ ds }
  | .postKeyAuth, ds => { r with mwPaths := r.mwPaths ++ paths, postKeyAuth := r.postKeyAuth ++ ds }
  | .response, ds => { r with mwPaths := r.mwPaths ++ paths, response := r.response ++ ds }

@[simp] theorem append_nil (r : LoadedMiddleware) (s : Slot) : r.append [] s [] = r := by
  cases s <;> simp [append]

@[simp] theorem append_append (r : LoadedMiddleware) (s : Slot) (p p' : List String)
    (ds ds' : List MiddlewareDefinition) :
    (r.append p s ds).append p' s ds' = r.append (p ++ p') s (ds ++ ds') := by
  cases s <;> simp [append]

end LoadedMiddleware

/-! ### The model of the function -/

/-- `strings.HasSuffix(s, suffix)`. -/
def hasSuffix (s suffix : String) : Bool := suffix.toList.isSuffixOf s.toList

/-- `filepath.Base(path)` for `/`-separated paths: the last element after
trailing slashes are dropped, `"."` for the empty path and `"/"` for a path of
slashes. -/
def filepathBase (path : String) : String :=
  if path = "" then "."
  else
    match (path.toList.reverse.dropWhile (· = '/')).takeWhile (· ≠ '/') with
    | [] => "/"
    | last => ⟨last.reverse⟩

/-- The definition made for a file found in a middleware folder: named by
`strings.Split(filepath.Base(path), ".")[0]`, the part of the base name before
its first dot. -/
def fileMiddleware (path : String) : MiddlewareDefinition :=
  let name : String := ⟨(filepathBase path).toList.takeWhile (· ≠ '.')⟩
  { name, path, disabled := false, requireSession := hasSuffix name "_with_session" }

/-- What a folder's files are loaded into: the one auth hook, or a slice. -/
inductive FolderTarget where
  | single
  | slice (s : Slot)
  deriving DecidableEq, Repr

/-- An entry of the array of folders the function loads files from. -/
structure MiddlewareFolder where
  name : String
  target : FolderTarget
  deriving DecidableEq, Repr

/-- The folders, in the order of the source's array. -/
def middlewareFolders : List MiddlewareFolder :=
  [⟨"pre", .slice .pre⟩, ⟨"auth", .single⟩, ⟨"post_auth", .slice .postKeyAuth⟩,
    ⟨"post", .slice .post⟩]

/-- The `AuthCheck` hook block. -/
def setAuthCheck (authCheck : MiddlewareDefinition) (r : LoadedMiddleware) : LoadedMiddleware :=
  if !authCheck.disabled && authCheck.name ≠ "" then
    { r with
      authCheck
      mwPaths := if authCheck.path ≠ "" then r.mwPaths ++ [authCheck.path] else r.mwPaths }
  else r

/-- A loop over declared definitions: each one that is not disabled adds
`paths mwObj` to `mwPaths` and itself to `slot`. -/
def loadDeclared (paths : MiddlewareDefinition → List String) (slot : Slot)
    (r : LoadedMiddleware) (defs : List MiddlewareDefinition) : LoadedMiddleware :=
  defs.foldl (fun r mwObj => if mwObj.disabled then r else r.append (paths mwObj) slot [mwObj]) r

/-- One iteration of the loop over a folder's files. -/
def loadFile (folder : MiddlewareFolder) (r : LoadedMiddleware) (path : String) :
    LoadedMiddleware :=
  match folder.target with
  | .single => { r with mwPaths := r.mwPaths ++ [path], authCheck := fileMiddleware path }
  | .slice s => r.append [path] s [fileMiddleware path]

/-- The loop over the files `filepath.Glob` lists for one folder. -/
def loadFolder (glob : String → List String) (r : LoadedMiddleware) (folder : MiddlewareFolder) :
    LoadedMiddleware :=
  (glob folder.name).foldl (loadFile folder) r

/-- `loadCustomMiddleware` on `spec.CustomMiddleware`, with `glob name` the
files listed for the folder `name`. -/
def loadCustomMiddleware (glob : String → List String) (mw : MiddlewareSection) :
    LoadedMiddleware :=
  let r := setAuthCheck mw.authCheck .empty
  let r := loadDeclared (fun mwObj => [mwObj.path]) .pre r mw.pre
  let r := loadDeclared (fun mwObj => [mwObj.path]) .post r mw.post
  let r := middlewareFolders.foldl (loadFolder glob) r
  let r := if mw.driver ≠ "" then { r with driver := mw.driver } else r
  let r := loadDeclared (fun mwObj => if mwObj.path ≠ "" then [mwObj.path] else [])
    .postKeyAuth r mw.postKeyAuth
  loadDeclared (fun _ => []) .response r mw.response

/-! ### The loops in closed form -/

/-- The definitions of a list that are not disabled, in order. -/
def enabled (defs : List MiddlewareDefinition) : List MiddlewareDefinition :=
  defs.filter fun d => !d.disabled

/-- The auth hook that the `AuthCheck` block leaves. -/
def declaredAuthCheck (authCheck : MiddlewareDefinition) : MiddlewareDefinition :=
  if !authCheck.disabled && authCheck.name ≠ "" then authCheck else default

/-- The paths that the `AuthCheck` block adds. -/
def declaredAuthCheckPaths (authCheck : MiddlewareDefinition) : List String :=
  if !authCheck.disabled && authCheck.name ≠ "" && authCheck.path ≠ "" then [authCheck.path]
  else []

theorem setAuthCheck_empty (authCheck : MiddlewareDefinition) :
    setAuthCheck authCheck .empty =
      { LoadedMiddleware.empty with
        authCheck := declaredAuthCheck authCheck
        mwPaths := declaredAuthCheckPaths authCheck } := by
  unfold setAuthCheck declaredAuthCheck declaredAuthCheckPaths
  split_ifs <;> simp_all [LoadedMiddleware.empty]

/-- A declaration loop appends the enabled definitions to its slot, in order,
and their paths to `mwPaths`. -/
theorem loadDeclared_eq (paths : MiddlewareDefinition → List String) (slot : Slot)
    (r : LoadedMiddleware) (defs : List MiddlewareDefinition) :
    loadDeclared paths slot r defs = r.append ((enabled defs).flatMap paths) slot (enabled defs) := by
  induction defs generalizing r with
  | nil => simp [loadDeclared, enabled]
  | cons d ds ih =>
    unfold loadDeclared at ih ⊢
    cases hd : d.disabled <;> simp [enabled, List.filter_cons, hd, ih]

/-- A slice folder's files are appended to the slice in glob order. -/
theorem foldl_loadFile_slice (name : String) (s : Slot) :
    ∀ (r : LoadedMiddleware) (paths : List String),
      paths.foldl (loadFile ⟨name, .slice s⟩) r = r.append paths s (paths.map fileMiddleware)
  | r, [] => by simp
  | r, p :: ps => by simp [loadFile, foldl_loadFile_slice name s _ ps]

/-- The `auth` folder's last file replaces the auth hook. -/
theorem foldl_loadFile_single (name : String) :
    ∀ (r : LoadedMiddleware) (paths : List String),
      paths.foldl (loadFile ⟨name, .single⟩) r =
        { r with
          mwPaths := r.mwPaths ++ paths
          authCheck := (paths.getLast?.map fileMiddleware).getD r.authCheck }
  | r, [] => by simp
  | r, p :: ps => by
    rw [List.foldl_cons, foldl_loadFile_single name _ ps]
    cases h : ps.getLast? <;> simp [loadFile, List.getLast?_cons, h]

/-- The whole function in closed form. -/
theorem loadCustomMiddleware_eq (glob : String → List String) (mw : MiddlewareSection) :
    loadCustomMiddleware glob mw =
      { mwPaths := declaredAuthCheckPaths mw.authCheck ++ (enabled mw.pre).map (·.path) ++
          (enabled mw.post).map (·.path) ++
          (glob "pre" ++ glob "auth" ++ glob "post_auth" ++ glob "post") ++
          (enabled mw.postKeyAuth).flatMap (fun d => if d.path ≠ "" then [d.path] else [])
        authCheck := ((glob "auth").getLast?.map fileMiddleware).getD (declaredAuthCheck mw.authCheck)
        pre := enabled mw.pre ++ (glob "pre").map fileMiddleware
        post := enabled mw.post ++ (glob "post").map fileMiddleware
        postKeyAuth := (glob "post_auth").map fileMiddleware ++ enabled mw.postKeyAuth
        response := enabled mw.response
        driver := mw.driver } := by
  have hr : (enabled mw.response).flatMap (fun _ => ([] : List String)) = [] :=
    List.flatMap_eq_nil_iff.mpr fun _ _ => rfl
  unfold loadCustomMiddleware
  simp only [setAuthCheck_empty, loadDeclared_eq, middlewareFolders, List.foldl_cons,
    List.foldl_nil, loadFolder, foldl_loadFile_slice, foldl_loadFile_single]
  split_ifs with hd <;>
    simp_all [LoadedMiddleware.append, LoadedMiddleware.empty, ← List.map_eq_flatMap]

/-- A disabled declared `Pre` definition is skipped and the `pre` folder's
file follows the enabled one. -/
example : (loadCustomMiddleware (fun n => if n = "pre" then ["/mw/a/pre/x.js"] else [])
    ⟨[⟨"off", "off.js", true, false⟩, ⟨"on", "on.js", false, false⟩], [], [], default, [], ""⟩).pre =
    [⟨"on", "on.js", false, false⟩, ⟨"x", "/mw/a/pre/x.js", false, false⟩] := by
  decide

/-! ### Disabled definitions -/

/-- The declaration without its disabled definitions; a disabled auth hook
becomes the zero value. -/
def MiddlewareSection.dropDisabled (mw : MiddlewareSection) : MiddlewareSection :=
  { mw with
    pre := enabled mw.pre
    post := enabled mw.post
    postKeyAuth := enabled mw.postKeyAuth
    authCheck := if mw.authCheck.disabled then default else mw.authCheck
    response := enabled mw.response }

@[simp] theorem mem_enabled {d : MiddlewareDefinition} {defs : List MiddlewareDefinition} :
    d ∈ enabled defs ↔ d ∈ defs ∧ d.disabled = false := by
  simp [enabled]

@[simp] theorem enabled_enabled (defs : List MiddlewareDefinition) :
    enabled (enabled defs) = enabled defs := by
  simp [enabled, List.filter_filter]

@[simp] theorem declaredAuthCheck_disabled (authCheck : MiddlewareDefinition) :
    (declaredAuthCheck authCheck).disabled = false := by
  unfold declaredAuthCheck
  split_ifs with h <;> simp_all [default]

/-- Dropping the disabled definitions changes none of the seven results. -/
theorem loadCustomMiddleware_dropDisabled (glob : String → List String) (mw : MiddlewareSection) :
    loadCustomMiddleware glob mw.dropDisabled = loadCustomMiddleware glob mw := by
  have ha : declaredAuthCheck mw.dropDisabled.authCheck = declaredAuthCheck mw.authCheck ∧
      declaredAuthCheckPaths mw.dropDisabled.authCheck = declaredAuthCheckPaths mw.authCheck := by
    cases hd : mw.authCheck.disabled <;>
      simp [MiddlewareSection.dropDisabled, declaredAuthCheck, declaredAuthCheckPaths, hd, default]
  rw [loadCustomMiddleware_eq, loadCustomMiddleware_eq, ha.1, ha.2]
  simp [MiddlewareSection.dropDisabled]

/-- For every declaration and every folder listing: each of the `Pre` and
`Post` slots is the declared definitions that are not disabled, in declared
order, followed by the files of its folder in glob order; `PostKeyAuth` is the
`post_auth` files followed by the enabled declared hooks, and `Response` the
enabled declared hooks. No returned definition is disabled, and disabled
declarations change no result, `mwPaths` included. A file's definition has the
file's path, is enabled, and requires a session exactly when its name ends in
`_with_session`. The path of every enabled declared `Pre` and `Post`
definition and of every file found is in `mwPaths`. -/
theorem loadCustomMiddleware_slots (glob : String → List String) (mw : MiddlewareSection) :
    (loadCustomMiddleware glob mw).pre = enabled mw.pre ++ (glob "pre").map fileMiddleware ∧
      (loadCustomMiddleware glob mw).post = enabled mw.post ++ (glob "post").map fileMiddleware ∧
      (loadCustomMiddleware glob mw).postKeyAuth =
        (glob "post_auth").map fileMiddleware ++ enabled mw.postKeyAuth ∧
      (loadCustomMiddleware glob mw).response = enabled mw.response ∧
      (∀ d ∈ (loadCustomMiddleware glob mw).pre ++ (loadCustomMiddleware glob mw).post ++
          (loadCustomMiddleware glob mw).postKeyAuth ++ (loadCustomMiddleware glob mw).response,
        d.disabled = false) ∧
      (loadCustomMiddleware glob mw).authCheck.disabled = false ∧
      loadCustomMiddleware glob mw.dropDisabled = loadCustomMiddleware glob mw ∧
      (∀ path, (fileMiddleware path).path = path ∧ (fileMiddleware path).disabled = false ∧
        (fileMiddleware path).requireSession = hasSuffix (fileMiddleware path).name "_with_session") ∧
      (∀ d ∈ enabled mw.pre ++ enabled mw.post ++
          (glob "pre" ++ glob "auth" ++ glob "post_auth" ++ glob "post").map fileMiddleware,
        d.path ∈ (loadCustomMiddleware glob mw).mwPaths) := by
  refine ⟨?_, ?_, ?_, ?_, ?_, ?_, loadCustomMiddleware_dropDisabled glob mw,
    fun _ => ⟨rfl, rfl, rfl⟩, ?_⟩ <;> rw [loadCustomMiddleware_eq]
  · simp only [List.forall_mem_append, List.forall_mem_map, mem_enabled]
    simp [fileMiddleware]
  · cases (glob "auth").getLast? <;> simp [fileMiddleware]
  · intro d hd
    have hp : d.path ∈ (enabled mw.pre).map (·.path) ++ (enabled mw.post).map (·.path) ++
        (glob "pre" ++ glob "auth" ++ glob "post_auth" ++ glob "post") := by
      simpa [Function.comp_def, fileMiddleware] using List.mem_map_of_mem (·.path) hd
    -- the paths of `hp` stand in `mwPaths` between the auth hook's and the `PostKeyAuth` ones
    simp only [List.append_assoc] at hp ⊢
    exact List.mem_append_right _
      (by simpa only [← List.append_assoc] using List.mem_append_left _ hp)

/-- A file's name stops at the first dot of its base name. -/
example : fileMiddleware "/mw/api1/post/limit_with_session.min.js" =
    ⟨"limit_with_session", "/mw/api1/post/limit_with_session.min.js", false, true⟩ := by
  decide

end TykGateway
