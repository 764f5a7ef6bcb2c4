import TextAdventure.Completion
import TextAdventure.Main
import TextAdventure.Proofs.StoryFaults
import TextAdventure.Proofs.SceneEntry
import TextAdventure.Proofs.Callbacks
import TextAdventure.Proofs.ReadingValues
import TextAdventure.Proofs.SaveRoundTrip
import TextAdventure.Proofs.Coherence
import TextAdventure.Proofs.Loading
import TextAdventure.Proofs.InventoryRecord
import TextAdventure.Proofs.SoundReferences
import TextAdventure.Proofs.Restoring
import TextAdventure.Proofs.Refusals
import TextAdventure.Proofs.ItemCounts
import TextAdventure.Proofs.CommandsInSync
import TextAdventure.Proofs.HeldOnce
import TextAdventure.Proofs.LoweredText
import TextAdventure.Proofs.AdvertisedVerbs
import TextAdventure.Proofs.AcceptedLines
import TextAdventure.Proofs.Origins
import TextAdventure.Proofs.Remarks
import TextAdventure.Proofs.Verbosity
import TextAdventure.Proofs.CallbackParts
import TextAdventure.Proofs.Answers
import TextAdventure.Proofs.PlayedLines
import TextAdventure.Proofs.UndoneDeeds
import TextAdventure.Proofs.CompletedWords
import TextAdventure.Proofs.MentionedKeywords
import TextAdventure.Proofs.ShownWords
import TextAdventure.Proofs.WordOrder
import TextAdventure.Proofs.SplitLines
import TextAdventure.Proofs.Reordering
import TextAdventure.Proofs.NormalLines
import TextAdventure.Proofs.ItemHistory
import TextAdventure.Proofs.CallGrammar
import TextAdventure.Proofs.Registration
import TextAdventure.Proofs.VerbListing
