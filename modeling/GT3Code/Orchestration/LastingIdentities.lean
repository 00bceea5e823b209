import GT3Code.Orchestration.ReadModelInvariants

/-! # Identities in the command read model

Projects and threads are only ever added behind those there are. An entry keeps its
place and its id, a thread its project, and what is deleted stays deleted.
-/

namespace GT3Code.Orchestration

open GT3Code.Base GT3Code.Contracts

/-- Every entry stays in its place, related to what it was, and new ones come behind. -/
def Grows {α : Type} (R : α → α → Prop) (before after : List α) : Prop :=
  ∃ (f : α → α) (added : List α), (∀ entry, R entry (f entry)) ∧ after = before.map f ++ added

theorem Grows.trans {α : Type} {R : α → α → Prop} {before between after : List α}
    (hR : ∀ {first second third}, R first second → R second third → R first third)
    (h : Grows R before between) (h' : Grows R between after) : Grows R before after := by
  obtain ⟨f, added, hf, rfl⟩ := h
  obtain ⟨g, others, hg, rfl⟩ := h'
  refine ⟨g ∘ f, added.map g ++ others, fun entry => hR (hf entry) (hg (f entry)), ?_⟩
  rw [List.map_append, List.map_map, List.append_assoc]

theorem Grows.added {α : Type} {R : α → α → Prop} (hR : ∀ entry, R entry entry) (before : List α)
    (entries : List α) : Grows R before (before ++ entries) :=
  ⟨id, entries, hR, by rw [List.map_id]⟩

theorem Grows.mapped {α : Type} {R : α → α → Prop} {f : α → α} (hf : ∀ entry, R entry (f entry))
    (before : List α) : Grows R before (before.map f) :=
  ⟨f, [], hf, (List.append_nil _).symm⟩

structure SameProject (before after : OrchestrationProject) : Prop where
  id : after.id = before.id
  deleted : before.deletedAt ≠ none → after.deletedAt ≠ none

structure SameThread (before after : OrchestrationThread) : Prop where
  id : after.id = before.id
  projectId : after.projectId = before.projectId
  deleted : before.deletedAt ≠ none → after.deletedAt ≠ none

theorem SameProject.refl (project : OrchestrationProject) : SameProject project project :=
  ⟨rfl, fun h => h⟩

theorem SameProject.trans {first second third : OrchestrationProject}
    (h : SameProject first second) (h' : SameProject second third) : SameProject first third :=
  ⟨h'.id.trans h.id, fun hdeleted => h'.deleted (h.deleted hdeleted)⟩

theorem SameThread.trans {first second third : OrchestrationThread} (h : SameThread first second)
    (h' : SameThread second third) : SameThread first third :=
  ⟨h'.id.trans h.id, h'.projectId.trans h.projectId,
    fun hdeleted => h'.deleted (h.deleted hdeleted)⟩

theorem KeepsThread.sameThread {payload : EventPayload} {before after : OrchestrationThread}
    (h : KeepsThread payload before after) : SameThread before after := by
  refine ⟨h.id, h.projectId, fun hdeleted => ?_⟩
  rcases h.deletedAt with hsame | ⟨_, _, _, _, hset⟩
  · rwa [hsame]
  · simp [hset]

structure KeepsIdentities (before after : OrchestrationReadModel) : Prop where
  projects : Grows SameProject before.projects after.projects
  threads : Grows SameThread before.threads after.threads

variable {readModel : OrchestrationReadModel} {event : OrchestrationEvent}

theorem grows_projectProjects (hadmissible : Admissible readModel event.payload) :
    Grows SameProject readModel.projects (projectProjects readModel.projects event) := by
  cases hpayload : event.payload with
  | projectCreated payload =>
    rw [hpayload] at hadmissible
    rw [projectProjects_created hpayload hadmissible.1]
    exact .added .refl _ _
  | projectMetaUpdated payload =>
    rw [projectProjects, hpayload]
    refine .mapped (fun project => ?_) _
    split
    · exact ⟨rfl, fun hdeleted => hdeleted⟩
    · exact .refl project
  | projectDeleted payload =>
    rw [projectProjects, hpayload]
    refine .mapped (fun project => ?_) _
    split
    · exact ⟨rfl, fun _ => fun h => (by cases h)⟩
    · exact .refl project
  | _ =>
    rw [projectProjects, hpayload]
    exact ⟨id, [], .refl, by simp⟩

variable [Collation]

theorem grows_projectThreads (hadmissible : Admissible readModel event.payload) :
    Grows SameThread readModel.threads (projectThreads readModel.threads event) := by
  rcases projectThreads_cases readModel.threads event with ⟨payload, hpayload, heq⟩ | ⟨-, f, hf, heq⟩
  · rw [hpayload] at hadmissible
    have hfresh : ∀ thread ∈ readModel.threads, thread.id ≠ (threadFromCreated payload).id :=
      findThreadById_eq_none.mp hadmissible.2
    rw [heq, upsertEntry_of_fresh hfresh]
    exact .added (fun thread => (KeepsThread.refl event.payload thread).sameThread) _ _
  · rw [heq]
    exact .mapped (fun thread => (hf thread).sameThread) _

variable [TextRuntime]

theorem KeepsIdentities.acceptCommand {before next : OrchestrationReadModel}
    {submission : Submission} (h : KeepsIdentities before readModel)
    (haccept : acceptCommand readModel submission = some next) : KeepsIdentities before next := by
  obtain ⟨events, hdecide, rfl⟩ := acceptCommand_eq_some haccept
  refine projectPlanned_invariant (fun model event hmodel hadmissible => ?_) h
    (admissiblePlan_decide hdecide)
  exact ⟨hmodel.projects.trans .trans (grows_projectProjects hadmissible),
    hmodel.threads.trans .trans (grows_projectThreads hadmissible)⟩

/-- No accepted command drops, reorders or revives a project or a thread, or moves a thread to
another project. -/
theorem keepsIdentities_throughout (before : OrchestrationReadModel)
    (submissions : List Submission) :
    Throughout Orchestration.acceptCommand (KeepsIdentities before) before submissions :=
  throughout_of_invariant (fun _ _ _ h haccept => h.acceptCommand haccept)
    ⟨⟨id, [], .refl, by simp⟩,
      ⟨id, [], fun thread => ⟨rfl, rfl, fun h => h⟩, by simp⟩⟩ submissions

end GT3Code.Orchestration
