/-
Where the worker looks for modules.

The variable that it is given lists the checkout, in an absolute form, and
then the places that were listed before. Cut at its separators, a list gives
back the places that were put into it, as long as none of them holds the
separator. Those that come out of a list hold none, so only the checkout can
(`split_toList_cons_iff`). Then there is no such list, and the worker is
given an empty one: the places that were listed before are lost as well.
-/
import Restoration.Proofs.Path
import Restoration.Worker.Start

namespace Restoration

namespace Path

variable {p : Path}

/-- The places that the value of a variable lists, if it has one. -/
def listed : Option Bytes → List Bytes
  | none => []
  | some value => split colon value

/-- The places of a list hold no colon, since a colon separates them. -/
theorem colon_not_mem_of_mem_ofList {value : Bytes}
    (h : p ∈ ofList value) : colon ∉ p.bytes := by
  obtain ⟨part, hpart, rfl⟩ := List.mem_map.mp h
  exact not_mem_of_mem_splitFrom List.not_mem_nil hpart

/-- A place and the places of another list are a list, unless the place
holds the separator. -/
theorem split_toList_cons_iff {value : Option Bytes} {others : List Path}
    (hothers : others.map Path.bytes = listed value)
    (hfree : ∀ q ∈ others, colon ∉ q.bytes) :
    (split colon ((toList (p :: others)).getD []) = p.bytes :: listed value ↔
      colon ∉ p.bytes)
      ∧ (colon ∈ p.bytes → (toList (p :: others)).getD [] = []) := by
  have hempty : colon ∈ p.bytes → (toList (p :: others)).getD [] = [] := by
    intro hcolon
    have hany : (p :: others).any (·.bytes.contains colon) = true := by
      simp [hcolon]
    rw [toList, if_pos hany]
    rfl
  refine ⟨⟨?_, ?_⟩, hempty⟩
  · intro hsplit hcolon
    -- no part of a list holds the separator
    have hmem : p.bytes ∈ split colon ((toList (p :: others)).getD []) := by
      simp [hsplit]
    exact not_mem_of_mem_splitFrom List.not_mem_nil hmem hcolon
  · intro hcolon
    rcases toList_cases (List.cons_ne_nil p others) with
      hlist | ⟨-, q, hq, hmem⟩
    · have hbytes := congrArg (List.map Path.bytes) hlist
      rw [ofList, List.map_map] at hbytes
      simpa [Function.comp_def, hothers] using hbytes
    · rcases List.mem_cons.mp hq with rfl | hq
      · exact absurd hmem hcolon
      · exact absurd hmem (hfree q hq)

end Path

/-- The path of the working directory starts at the root. -/
theorem Files.isAbsolute_workingPath {files : Files} {here : Path}
    (h : files.workingPath = some here) : here.isAbsolute = true := by
  unfold workingPath at h
  split at h
  · cases h
  · cases h
    cases files.workingDirectory <;> rfl

namespace Worker

open Restoration.Path (colon split listed)

variable (w : World) (files : Files) (python : String)
  (checkout checkpoint : Path) (image : Bytes)

/-- What the worker program is given as the list of places where modules are
looked for. -/
def givenModules : Option Bytes :=
  (w.launch
    (w.attempt files
      (loading (scriptCommand w files python checkout) checkpoint))
    image).environment.bytes? "PYTHONPATH"

/-- The worker is given the checkout in an absolute form, and behind it the
places that were listed before, exactly if the absolute form holds no colon;
otherwise it is given an empty list. -/
theorem givenModules_split (hcheckout : checkout.bytes ≠ []) :
    ∃ place value,
      givenModules w files python checkout checkpoint image = some value
      ∧ place = (Path.absolute files.workingPath checkout).getD checkout
      ∧ (∀ here, files.workingPath = some here →
        Path.IsAbsoluteForm here checkout place)
      ∧ (split colon value = place.bytes ::
        listed (w.environment.bytes? "PYTHONPATH") ↔ colon ∉ place.bytes)
      ∧ (colon ∈ place.bytes → value = []) := by
  refine ⟨_, modulePath w files checkout, rfl, rfl, ?_, ?_⟩
  · intro here hhere
    obtain ⟨place, hplace, hform⟩ :=
      Path.exists_absolute (Files.isAbsolute_workingPath hhere) hcheckout
    rw [hhere, hplace, Option.getD_some]
    exact hform
  · unfold modulePath
    dsimp only
    cases hvalue : w.environment.bytes? "PYTHONPATH" with
    | none =>
      have hnone : ([] : List Path).map Path.bytes = listed none := rfl
      exact Path.split_toList_cons_iff hnone (by simp)
    | some value =>
      have hsome : (Path.ofList value).map Path.bytes
          = listed (some value) := by
        simp [Path.ofList, listed, Function.comp_def]
      exact Path.split_toList_cons_iff hsome fun q hq =>
        Path.colon_not_mem_of_mem_ofList hq

/-- An environment that lists places for modules; nothing else matters here. -/
def listingWorld (value : String) : World where
  environment := ⟨[("PYTHONPATH", Utf8.encode value)], none⟩
  run launch := ⟨.code 0, [], launch.files⟩
  converse _ := ⟨⟨[], true⟩, fun _ => ⟨[], true⟩⟩
  tend _ := ⟨fun _ => .exited (.code 0), fun _ => .error .dropped⟩
  agentAddress := "127.0.0.1:4040"
  send _ _ := .error .dropped
  listen host := .ok (host.address, 8000)
  names := ⟨"0", "0", fun _ => "0", fun _ => "0"⟩

/-- An empty working directory. -/
def emptyFiles : Files :=
  ⟨.directory true [(Utf8.encode "cwd", .empty)], [Utf8.encode "cwd"]⟩

theorem givenModules_split_relative :
    (Path.ofString "model/./aeneas/").bytes ≠ [] ∧
    ∃ value, givenModules (listingWorld "lib::/opt") emptyFiles "python"
        (.ofString "model/./aeneas/") (.ofString "in/aeneas.pkl") []
          = some value
      ∧ split colon value
        = [Utf8.encode "/cwd/model/aeneas/", Utf8.encode "lib", [],
        Utf8.encode "/opt"] := by
  have hcheckout : (Path.ofString "model/./aeneas/").bytes ≠ [] := by
    with_unfolding_all decide
  refine ⟨hcheckout, ?_⟩
  obtain ⟨place, value, hgiven, hplace, -, hsplit, -⟩ :=
    givenModules_split (listingWorld "lib::/opt") emptyFiles "python"
      (.ofString "model/./aeneas/") (.ofString "in/aeneas.pkl") [] hcheckout
  have hform : place = .ofString "/cwd/model/aeneas/" := by
    rw [hplace]
    with_unfolding_all rfl
  subst hform
  refine ⟨value, hgiven, (hsplit.mpr ?_).trans ?_⟩
  · with_unfolding_all decide
  · with_unfolding_all rfl

/-- With a colon in its name the checkout is not listed, and neither is what
was listed before. -/
theorem givenModules_colon :
    givenModules (listingWorld "libs") emptyFiles "python" (.ofString "co:de")
        (.ofString "in/aeneas.pkl") [] = some []
      ∧ Path.absolute emptyFiles.workingPath (.ofString "co:de")
        = some (.ofString "/cwd/co:de")
      ∧ split colon [] ≠ (Path.ofString "/cwd/co:de").bytes
        :: listed ((listingWorld "libs").environment.bytes? "PYTHONPATH") := by
  refine ⟨?_, ?_, ?_⟩
  · with_unfolding_all rfl
  · with_unfolding_all rfl
  · with_unfolding_all decide

end Worker

end Restoration
