/-
This file says what makes saving a book fail with a fault that is not of the program's own making. A
record store cannot be written in a folder whose path holds the character zero, nor can a file be
written that stands in for an outbox. A post stalls at a wait that cannot be computed, which takes
more than a thousand answers that ask for another try. Any other failure is a refusal of the store
or of the outbox.
-/
import MarketSignal.Proofs.Storage.Delivery
import MarketSignal.Proofs.Storage.Derailing
import MarketSignal.Proofs.Storage.Retrying

namespace MarketSignal

/-! ### Writing a file -/

/-- Writing a file gets as far as the character zero in its path: above the file, or in its name. -/
inductive Disk.Stumbles (path : Path) (disk : Disk) : Prop where
  | above (zero : path.parent.HasZero) (working : disk.failing ≠ some .makeFolder)
  | atEnd (clean : ¬ path.parent.HasZero) (zero : path.HasZero)
    (made : ((makeFolders path.parent).outcome disk).1 = .ok ())
    (working : ((makeFolders path.parent).outcome disk).2.failing ≠ some .write)

namespace Disk

variable (path : Path) (bytes : ByteArray) (disk : Disk)

theorem outcome_writeBytes_hasZero (zero : path.HasZero) :
    ((writeBytes path bytes).outcome disk).1 =
      .error (if disk.failing == some .write then .file .device path.text else .zeroInPath) := by
  unfold writeBytes
  rcases outcome_attempt_bind .write path _ disk with ⟨failing, fails⟩ | ⟨working, goesOn⟩
  · rw [fails, failing]
    rfl
  · rw [goesOn, working, Run.outcome_bind, Run.outcome_get, Run.continued,
      locate_hasZero disk path zero]
    rfl

/-- A file is written, or its path is refused by the file system, or it holds the character zero. -/
theorem outcome_writeFile :
    (disk.Stumbles path →
        ((makeFolders path.parent >>= fun _ => writeBytes path bytes).outcome disk).1 =
          .error .zeroInPath) ∧
      (¬ disk.Stumbles path → ∀ fault,
        ((makeFolders path.parent >>= fun _ => writeBytes path bytes).outcome disk).1 =
          .error fault → fault.isFile = true) := by
  rw [Run.outcome_bind]
  by_cases zeroAbove : path.parent.HasZero
  · rw [outcome_makeFolders_hasZero path.parent zeroAbove disk]
    constructor
    · rintro (⟨-, working⟩ | ⟨clean, -, -, -⟩)
      · rw [if_neg (by simpa using working)]
        rfl
      · exact absurd zeroAbove clean
    · intro holds fault fails
      have failing : disk.failing = some .makeFolder := by
        by_contra working
        exact holds (.above zeroAbove working)
      rw [failing] at fails
      cases fails
      rfl
  · have refuses := fileRefuses_makeFolders path.parent zeroAbove disk
    have atEnd := @Stumbles.atEnd path disk zeroAbove
    have only : disk.Stumbles path → path.HasZero ∧
        ((makeFolders path.parent).outcome disk).1 = .ok () ∧
        ((makeFolders path.parent).outcome disk).2.failing ≠ some .write := by
      rintro (⟨zero, -⟩ | ⟨-, zero, made, working⟩)
      · exact absurd zero zeroAbove
      · exact ⟨zero, made, working⟩
    revert refuses atEnd only
    obtain ⟨fault | _, after⟩ := (makeFolders path.parent).outcome disk
    · intro refuses _ only
      refine ⟨fun stumbles => (nomatch (only stumbles).2.1), fun _ other fails => ?_⟩
      cases fails
      exact refuses fault rfl
    · intro _ atEnd only
      dsimp only [Run.continued] at atEnd only ⊢
      by_cases zero : path.HasZero
      · rw [outcome_writeBytes_hasZero path bytes after zero]
        constructor
        · intro stumbles
          rw [if_neg (by simpa using (only stumbles).2.2)]
        · intro holds fault fails
          have failing : after.failing = some .write := by
            by_contra working
            exact holds (atEnd zero rfl working)
          rw [failing] at fails
          cases fails
          rfl
      · exact ⟨fun stumbles => absurd (only stumbles).1 zero,
          fun _ => fileRefuses_writeBytes path zero bytes after⟩

/-- A document that can be written at all is refused, unless the path holds the character zero. -/
theorem refusesUnless_writeDocument {document : Json} (short : document.hasLongNumber = false) :
    RefusesUnless (disk.Stumbles path) ((writeDocument path document).outcome disk).1 := by
  have isPage : document.writePage = .ok document.page := by
    rw [Json.writePage, short]
    rfl
  obtain ⟨stumbles, refuses⟩ := outcome_writeFile path document.page.toUTF8 disk
  have steps : (do
      makeFolders path.parent
      let text ← Run.ofExcept document.writePage
      writeBytes path text.toUTF8 : Run Disk Unit) =
        (makeFolders path.parent >>= fun _ => writeBytes path document.page.toUTF8) := by
    rw [isPage]
    rfl
  rw [writeDocument, Run.outcome_tryCatch, steps]
  revert stumbles refuses
  obtain ⟨fault | _, after⟩ :=
    (makeFolders path.parent >>= fun _ => writeBytes path document.page.toUTF8).outcome disk
  · intro stumbles refuses
    refine ⟨fun holds => ?_, fun holds other fails => ?_⟩
    · cases stumbles holds
      exact ⟨_, rfl, rfl⟩
    · replace fails := Except.error.inj fails
      rw [if_pos (refuses holds fault rfl)] at fails
      exact fails ▸ rfl
  · intro stumbles _
    refine refusesUnless_ok (fun holds => ?_) _
    cases stumbles holds

end Disk

/-! ### Posting -/

namespace WebOutbox

/-- More answers than the wait can be computed for ask for another try. -/
structure Exhausts (outbox : WebOutbox) (script : List Reply) : Prop where
  more : 1024 < outbox.retries
  all : ∀ number ≤ 1024, outbox.asksAgain (Exchange.replyTo script number) = true

variable {outbox : WebOutbox}

theorem exhausts_iff (retries : Nat) (isRetries : outbox.retries = retries)
    (script : List Reply) : outbox.Exhausts script ↔ 1024 < outbox.deciding retries script := by
  constructor
  · intro exhausts
    have more := exhausts.more
    refine Nat.lt_of_not_le fun few => ?_
    rcases outbox.deciding_settles retries script with isLast | stops
    · omega
    · rw [exhausts.all _ few] at stops
      cases stops
  · intro late
    have inTime := outbox.deciding_le retries script
    exact ⟨by omega, fun number early =>
      outbox.asksAgain_of_lt_deciding retries script number (by omega)⟩

theorem isStorage_of_verdict {reply : Reply} {fault : Fault}
    (fails : verdict reply = .error fault) : fault.isStorage = true := by
  obtain ⟨text, rfl⟩ := status_of_verdict fails
  rfl

/-- A post is refused as undelivered, unless too many answers ask for another try. -/
theorem Usual.refusesUnless_send (usual : outbox.Usual) (document : Json) {members : Table Json}
    (sends : document.asObject = .ok members) (exchange : Exchange) :
    RefusesUnless (outbox.Exhausts exchange.script)
      ((outbox.send document).outcome exchange).1 := by
  rcases lt_or_ge outbox.retries 0 with negative | positive
  · have unposted : ((outbox.send document).outcome exchange).1 = .ok () := by
      rw [send, show (outbox.retries + 1).toNat = 0 by omega]
      rfl
    rw [unposted]
    refine refusesUnless_ok (fun exhausts => ?_) _
    have more := exhausts.more
    omega
  · have isRetries := (Int.toNat_of_nonneg positive).symm
    rcases usual.outcome_send document sends _ isRetries exchange with
      ⟨late, ends⟩ | ⟨few, ends, -⟩
    · refine ⟨fun _ => ⟨_, ends, rfl⟩, fun holds => ?_⟩
      exact absurd ((exhausts_iff _ isRetries _).mpr late) holds
    · refine ⟨fun exhausts => ?_, fun _ fault fails => isStorage_of_verdict (ends ▸ fails)⟩
      exact absurd ((exhausts_iff _ isRetries _).mp exhausts) (Nat.not_lt_of_le few)

end WebOutbox

/-! ### Saving -/

/-- What makes sending a document fail with a fault from outside the program. -/
inductive Outbox.Stalls (world : World) : Outbox → Prop where
  | post {poster : WebOutbox} (exhausts : poster.Exhausts world.exchange.script) :
    Stalls world (.web poster)
  | file {path : Path} (stumbles : world.disk.Stumbles path) : Stalls world (.file path)

/-- An outbox on the web posts as usual. -/
def Outbox.Usual (outbox : Outbox) : Prop := ∀ poster, outbox = .web poster → poster.Usual

theorem Outbox.Usual.refusesUnless_send {outbox : Outbox} (usual : outbox.Usual) {document : Json}
    {members : Table Json} (sends : document.asObject = .ok members)
    (short : document.hasLongNumber = false) (world : World) :
    RefusesUnless (outbox.Stalls world) ((outbox.send document).outcome world).1 := by
  cases outbox with
  | web poster =>
    obtain ⟨foreign, refused⟩ :=
      (usual poster rfl).refusesUnless_send document sends world.exchange
    refine ⟨?_, fun holds => refused fun exhausts => holds (.post exhausts)⟩
    rintro ⟨exhausts⟩
    exact foreign exhausts
  | file path =>
    obtain ⟨foreign, refused⟩ := Disk.refusesUnless_writeDocument path world.disk short
    refine ⟨?_, fun holds => refused fun stumbles => holds (.file stumbles)⟩
    rintro (_ | ⟨stumbles⟩)
    exact foreign stumbles
  | memory =>
    refine refusesUnless_ok ?_ _
    rintro ⟨⟩
  | refusing text status =>
    refine refusesUnless_error ?_ rfl
    rintro ⟨⟩

namespace Library

/-- What makes saving fail with a fault from outside the program. -/
inductive FailsToSave (library : Library) (world : World) : Prop where
  | unwritable (unwritable : library.Unwritable world)
  | stalled {outbox : Outbox} (noStore : library.primary = none)
    (isOutbox : library.outbox = some outbox) (stalls : outbox.Stalls world)

theorem FailsToSave.withJournal {library : Library} {world : World} (journal : Journal) :
    library.FailsToSave { world with journal := journal } ↔ library.FailsToSave world := by
  have stalls (outbox : Outbox) :
      outbox.Stalls { world with journal := journal } ↔ outbox.Stalls world := by
    constructor
    · rintro (exhausts | stumbles)
      · exact .post exhausts
      · exact .file stumbles
    · rintro (exhausts | stumbles)
      · exact .post exhausts
      · exact .file stumbles
  constructor
  · rintro (unwritable | ⟨noStore, isOutbox, isStalled⟩)
    · exact .unwritable unwritable
    · exact .stalled noStore isOutbox ((stalls _).mp isStalled)
  · rintro (unwritable | ⟨noStore, isOutbox, isStalled⟩)
    · exact .unwritable unwritable
    · exact .stalled noStore isOutbox ((stalls _).mpr isStalled)

variable (library : Library) (usual : ∀ outbox, library.outbox = some outbox → outbox.Usual)
  {book : Book} (short : (Book.toJson book).hasLongNumber = false) (world : World)

include usual short

theorem refusesUnless_saveBook :
    RefusesUnless (library.FailsToSave world) ((library.saveBook book).outcome world).1 := by
  unfold saveBook
  cases isPrimary : library.primary with
  | some store =>
    obtain ⟨foreign, refused⟩ := store.refusesUnless_write pathKey_bookKey short world
    refine ⟨?_, fun holds => refused fun unwritable =>
      holds (.unwritable ⟨store, isPrimary, unwritable⟩)⟩
    rintro (⟨other, isOther, unwritable⟩ | ⟨noStore, -, -⟩)
    · cases isPrimary.symm.trans isOther
      exact foreign unwritable
    · cases isPrimary.symm.trans noStore
  | none =>
    cases isOutbox : library.outbox with
    | none =>
      refine ⟨?_, fun _ fault fails => ?_⟩
      · rintro (⟨store, isStore, -⟩ | ⟨-, isOther, -⟩)
        · cases isPrimary.symm.trans isStore
        · cases isOutbox.symm.trans isOther
      · cases fails
        rfl
    | some outbox =>
      have shortDocument : (documentOf (Book.toJson book)).hasLongNumber = false :=
        (Json.anyLongMember_eq_false_iff _).mpr (List.forall_mem_singleton.mpr short)
      have noted (message : String) : ∃ journal, (World.note .info message >>= fun _ =>
          outbox.send (documentOf (Book.toJson book))).outcome world =
            (outbox.send (documentOf (Book.toJson book))).outcome
              { world with journal := journal } := ⟨_, rfl⟩
      obtain ⟨journal, steps⟩ := noted
        ("Primary tier unavailable, sending " ++ String.ofList (digitsOfNat (Table.size book)) ++
          " scenarios to sink.")
      dsimp only
      rw [steps]
      obtain ⟨foreign, refused⟩ := (usual outbox isOutbox).refusesUnless_send rfl shortDocument
        { world with journal := journal }
      rw [← FailsToSave.withJournal journal]
      refine ⟨?_, fun holds => refused fun stalls => holds (.stalled isPrimary isOutbox stalls)⟩
      rintro (⟨store, isStore, -⟩ | ⟨-, isOther, stalls⟩)
      · cases isPrimary.symm.trans isStore
      · cases isOutbox.symm.trans isOther
        exact foreign stalls

/-- Saving fails with no other fault from outside the program. -/
theorem derails_save_iff : (library.save book).Derails world ↔ library.FailsToSave world := by
  obtain ⟨journal, here⟩ := derails_operation "save_scenarios" (library.saveBook book) world
  rw [save, here, ← FailsToSave.withJournal journal]
  exact (library.refusesUnless_saveBook usual short { world with journal := journal }).foreign_iff

end Library

/-- The outbox that settings choose posts as usual. -/
theorem Settings.usual_outbox (settings : Settings) :
    ∀ outbox, settings.outbox = some outbox → outbox.Usual := by
  rintro outbox isOutbox poster rfl
  obtain ⟨target, isTarget, isOutbox⟩ := Option.map_eq_some_iff.mp isOutbox
  unfold Outbox.ofTarget at isOutbox
  dsimp only at isOutbox
  split at isOutbox
  · cases isOutbox
    exact settings.usual_poster target
  · cases isOutbox

end MarketSignal
