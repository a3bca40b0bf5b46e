/-
This file says what is left behind by work that writes one record once at most, with nothing but
notices after that. The changes of a library over a record store are such work. The record is all
that is changed, and if the work fails, what is kept is not changed at all. In a folder this is also
how it reads: a record that was not written is read as before, unless making the folder has opened
the way to it.
-/
import MarketSignal.Proofs.Storage.Direct
import MarketSignal.Proofs.Storage.Working

namespace MarketSignal

namespace RecordStore

/-! ### One record written once -/

/-- Between two worlds a record is written once at most; where the work is refused, the attempt to
write it failed. -/
inductive Written (store : RecordStore) (key : String) (refused : Prop) (before after : World) :
    Prop where
  | untouched (same : SameMedia before after)
  | stored (value : Json) (ready : World) (first : SameMedia before ready)
    (last : SameMedia ((store.write key value).outcome ready).2 after)
    (fails : refused → ((store.write key value).outcome ready).1 ≠ .ok ())

namespace Written

variable {store : RecordStore} {key : String} {refused : Prop} {before after : World}

theorem mono {stricter : Prop} (written : store.Written key refused before after)
    (implies : stricter → refused) : store.Written key stricter before after := by
  cases written with
  | untouched same => exact .untouched same
  | stored value ready first last fails =>
    exact .stored value ready first last fun strict => fails (implies strict)

/-- Work before and after that leaves the stores alone does not count. -/
theorem between {earlier later : World} (written : store.Written key refused before after)
    (first : SameMedia earlier before) (last : SameMedia after later) :
    store.Written key refused earlier later := by
  cases written with
  | untouched same => exact .untouched (first.trans (same.trans last))
  | stored value ready isFirst isLast fails =>
    exact .stored value ready (first.trans isFirst) (isLast.trans last) fails

/-- Nothing is changed but the record. -/
theorem changesOnly (written : store.Written key refused before after)
    (noSlash : '/' ∉ key.toList) : store.ChangesOnly key before after := by
  cases written with
  | untouched same =>
    exact changesOnly_of_others noSlash fun slot _ =>
      Or.inl (kept?_of_sameRecords same.sameRecords slot)
  | stored value ready first last fails =>
    exact (changesOnly_write store key value ready noSlash).between first.sameRecords
      last.sameRecords

/-- Where the work is refused, no record is changed. -/
theorem kept?_of_refused (written : store.Written key refused before after)
    (noSlash : '/' ∉ key.toList) (isRefused : refused) (other : RecordStore) (otherKey : String) :
    after.kept? (other.slot otherKey) = before.kept? (other.slot otherKey) := by
  cases written with
  | untouched same => exact kept?_of_sameRecords same.sameRecords _
  | stored value ready first last fails =>
    rw [kept?_of_sameRecords last.sameRecords, ← kept?_of_sameRecords first.sameRecords]
    cases failed : ((store.write key value).outcome ready).1 with
    | ok _ => exact absurd failed (fails isRefused)
    | error fault =>
      exact kept?_of_failed_write store key value ready fault noSlash failed other otherKey

/-- A record of the folder that is not written is read as before. -/
theorem read_eq {root : Path} {other : String}
    (written : (RecordStore.folder root).Written key refused before after) (plain : PlainKey key)
    (plainOther : PlainKey other) (leadsDown : Disk.LeadsDown (other ++ ".json"))
    (rooted : before.disk.Rooted) (direct : before.disk.Direct root)
    (spared : refused ∨ other ≠ key) :
    (((RecordStore.folder root).read other).outcome after).1 =
      (((RecordStore.folder root).read other).outcome before).1 := by
  cases written with
  | untouched same => exact same.read_eq _ other
  | stored value ready first last fails =>
    have apart : key ≠ other ∨ (((RecordStore.folder root).write key value).outcome ready).1 ≠
        .ok () := spared.symm.imp Ne.symm fails
    rw [last.read_eq, ← first.read_eq]
    rw [← first.disk] at rooted direct
    rw [write, World.onDisk, Run.outcome_within] at apart ⊢
    rw [read, World.onDisk, Run.outcome_within, Run.outcome_within]
    exact Disk.readRecord_spared plain plainOther leadsDown value rooted direct apart

end Written

/-! ### Work that writes one record -/

/-- However the work ends, it has written the record once at most, and if it fails, so has the
attempt. -/
def Writes {Result : Type} (store : RecordStore) (key : String) (work : Run World Result) : Prop :=
  ∀ world, store.Written key (∃ fault, (work.outcome world).1 = .error fault) world
    (work.outcome world).2

variable {store : RecordStore} {key : String} {Result Other : Type}

theorem writes_write (value : Json) : store.Writes key (store.write key value) := by
  refine fun world => .stored value world (.refl world) (.refl _) ?_
  rintro ⟨fault, fails⟩ succeeds
  cases fails.symm.trans succeeds

/-- What comes before the work that writes leaves the stores alone. -/
theorem Writes.after {work : Run World Result} {next : Result → Run World Other}
    (first : ∀ before, work.Keeps (SameMedia before))
    (rest : ∀ result, store.Writes key (next result)) : store.Writes key (work >>= next) := by
  intro world
  have same := first world world (.refl world)
  rw [Run.outcome_bind]
  revert same
  obtain ⟨fault | result, ready⟩ := work.outcome world
  · exact fun same => .untouched same
  · exact fun same => (rest result ready).between same (.refl _)

/-- What comes after it only answers. -/
theorem Writes.answering {work : Run World Result} (writes : store.Writes key work)
    (answer : Result → Other) :
    store.Writes key (work >>= fun result => pure (answer result)) := by
  intro world
  have written := writes world
  rw [Run.outcome_bind]
  revert written
  obtain ⟨fault | result, after⟩ := work.outcome world
  · exact fun written => written.mono fun _ => ⟨fault, rfl⟩
  · exact fun written => written.mono fun ⟨_, fails⟩ => nomatch fails

/-- Observing it only adds to the journal. -/
theorem Writes.operation {work : Run World Result} (writes : store.Writes key work)
    (name : String) : store.Writes key (Library.operation name work) := by
  intro world
  obtain ⟨first, last, done⟩ := outcome_operation name work world
  rw [done]
  exact (writes { world with journal := first }).between (.withJournal world first)
    (.withJournal _ last)

end RecordStore

/-! ### Changes of a library -/

namespace Library

open RecordStore

variable (library : Library) (store : RecordStore) (isPrimary : library.primary = some store)

include isPrimary

theorem writes_save (book : Book) : store.Writes bookKey (library.save book) := by
  refine Writes.operation ?_ _
  unfold saveBook
  rw [isPrimary]
  exact writes_write _

theorem writes_writeAssignments (assignments : Table Json) :
    store.Writes assignmentsKey (library.writeAssignments assignments) := by
  unfold writeAssignments
  rw [isPrimary]
  exact Writes.after (fun _ => Run.keeps_ofExcept _) fun clean => writes_write _

theorem writes_saveAssignments (assignments : Json) :
    store.Writes assignmentsKey (library.saveAssignments assignments) :=
  (Writes.after (fun _ => Run.keeps_ofExcept _)
    (library.writes_writeAssignments store isPrimary)).operation _

theorem keepsMedia_readAssignments (before : World) :
    library.readAssignments.Keeps (SameMedia before) := by
  intro world same
  rw [outcome_readAssignments library store isPrimary]
  exact SameMedia.keeps_read before store assignmentsKey world same

/-- A change of assignments reads them first. -/
theorem writes_changed (changed : Table String → Table Json) :
    store.Writes assignmentsKey (library.readAssignments >>= fun assignments =>
      library.writeAssignments (changed assignments) >>= fun _ => pure (changed assignments)) :=
  Writes.after (library.keepsMedia_readAssignments store isPrimary) fun assignments =>
    (library.writes_writeAssignments store isPrimary (changed assignments)).answering
      fun _ => changed assignments

theorem writes_assign (market : String) (id : Json) :
    store.Writes assignmentsKey (library.assign market id) :=
  (library.writes_changed store isPrimary fun read =>
    (read.map Json.str).put market id).operation _

theorem writes_unassign (market : String) :
    store.Writes assignmentsKey (library.unassign market) :=
  (library.writes_changed store isPrimary fun read => (read.map Json.str).erase market).operation _

end Library

end MarketSignal
