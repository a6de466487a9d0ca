import MyFundi.Foundation.InFlight
import MyFundi.Foundation.Machine
import MyFundi.Model.User
import MyFundi.Profile.UserRecord
import MyFundi.Profile.TableRows
import MyFundi.Profile.FundraiserKeys
import MyFundi.Profile.Copies
import MyFundi.Profile.Images
import MyFundi.Profile.NameEdit
import MyFundi.Search.Content
import MyFundi.Search.QueryOrder
import MyFundi.SignIn.Device
import MyFundi.Feed.ImageCache
import MyFundi.Feed.ReusedCell
import MyFundi.Feed.SerialTaps
import MyFundi.Feed.FailedWrites
import MyFundi.Feed.Publish
import MyFundi.Community.Convergence
import MyFundi.Community.Decoding
import MyFundi.Community.Publication
import MyFundi.Community.Isolation
import MyFundi.Community.Ledger
import MyFundi.Community.Profiles
import MyFundi.Community.Searching
import MyFundi.Community.Hearts
import MyFundi.Community.Histories
import MyFundi.Community.Pictures
