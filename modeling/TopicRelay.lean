import TopicRelay.Main
import TopicRelay.Proofs.Authorization
import TopicRelay.Proofs.Buffering
import TopicRelay.Proofs.EarlyCalls
import TopicRelay.Proofs.CallOrder
import TopicRelay.Proofs.NameGrammar
import TopicRelay.Proofs.Refusals
import TopicRelay.Proofs.Restart
import TopicRelay.Proofs.Independence
import TopicRelay.Proofs.Contention
import TopicRelay.Proofs.Scopes
import TopicRelay.Proofs.KeyNames
import TopicRelay.Proofs.Backoff
import TopicRelay.Proofs.Activations
import TopicRelay.Proofs.Handles
import TopicRelay.Proofs.Undisturbed
import TopicRelay.Proofs.Expiry
import TopicRelay.Proofs.Secrets
import TopicRelay.Proofs.Payloads
import TopicRelay.Proofs.SettingsTexts
import TopicRelay.Proofs.Marks
import TopicRelay.Proofs.DurableNames
