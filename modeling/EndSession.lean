import EndSession.Proofs.Logout.IssuerIsolation
import EndSession.Proofs.Client.Transport
import EndSession.Proofs.Logout.StoreAccess
import EndSession.Proofs.Provider.Directory
import EndSession.Proofs.Provider.Revocation
import EndSession.Proofs.Logout.RedirectTarget
import EndSession.Provider.Step
import EndSession.Proofs.Logout.Rearrangement
import EndSession.Proofs.Logout.Timeliness
import EndSession.Proofs.Logout.Unauthenticated
import EndSession.Proofs.Claims.NumericDates
import EndSession.Proofs.Claims.Audience
import EndSession.Proofs.Client.AcceptedUris
import EndSession.Proofs.Client.RefusedUris
import EndSession.Proofs.Logout.SessionHash
import EndSession.Proofs.Logout.Rendering
import EndSession.Proofs.Provider.Questions
