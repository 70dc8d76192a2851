import PersonTracking.Library.Transition
import PersonTracking.Library.Program
import PersonTracking.Library.Loop
import PersonTracking.Library.Pool
import PersonTracking.Library.OrderedDict
import PersonTracking.Library.Table
import PersonTracking.Library.PrefixCode
import PersonTracking.Python.Text
import PersonTracking.Python.Json
import PersonTracking.Python.Uuid
import PersonTracking.Python.JsonText
import PersonTracking.Python.Base64
import PersonTracking.Python.DateTime
import PersonTracking.Python.Url
import PersonTracking.Shared.Http
import PersonTracking.Shared.Security
import PersonTracking.Shared.Kafka
import PersonTracking.Shared.Qdrant
import PersonTracking.Shared.Redis
import PersonTracking.Shared.Minio
import PersonTracking.Domain.Entities
import PersonTracking.Gateway.Proxy
import PersonTracking.Gateway.Identity
import PersonTracking.Gateway.Routing
import PersonTracking.Gateway.ForwardedPath
import PersonTracking.Gateway.Endpoints
import PersonTracking.AuthService.TokenService
import PersonTracking.AuthService.AuthRoutes
import PersonTracking.Gateway.TokenAgreement
import PersonTracking.Gateway.Alerts
import PersonTracking.Gateway.Connections
import PersonTracking.Gateway.RateLimiter
import PersonTracking.Gateway.RateLimiterBackends
import PersonTracking.Gateway.Lockout
import PersonTracking.Gateway.LoginRace
import PersonTracking.Notification.Consumer
import PersonTracking.Notification.AlertPath
import PersonTracking.AiService.PersonGallery
import PersonTracking.AiService.MtmcAssociator
import PersonTracking.AiService.GalleryManager
import PersonTracking.AiService.DetectionEvents
import PersonTracking.AiService.Probe
import PersonTracking.AiService.Nms
import PersonTracking.AiService.SoftNms
import PersonTracking.AiService.SweepCadence
import PersonTracking.AiService.ExactGallery
import PersonTracking.AiService.PresentedTwice
import PersonTracking.AiService.ConcurrentTracks
import PersonTracking.AiService.CropSaver
import PersonTracking.AiService.SpatialConstraints
import PersonTracking.Analytics.UseCase
import PersonTracking.Analytics.Stores
import PersonTracking.Analytics.Drafts
import PersonTracking.Analytics.Outcomes
import PersonTracking.Analytics.Pagination
import PersonTracking.Analytics.Atomicity
import PersonTracking.Analytics.Duplicates
import PersonTracking.Analytics.Consumer
import PersonTracking.Analytics.StartListening
import PersonTracking.Analytics.FireAlerts
import PersonTracking.Analytics.Redelivery
import PersonTracking.Analytics.Summaries
import PersonTracking.Analytics.Workers
import PersonTracking.Analytics.Appearances
import PersonTracking.Analytics.Naming
import PersonTracking.Analytics.NewPersons
import PersonTracking.Analytics.TrackingRoutes
import PersonTracking.CameraService.Cameras
import PersonTracking.CameraService.HealthChecker
import PersonTracking.Contracts.Timestamps
import PersonTracking.Scheduler.Stores
import PersonTracking.Scheduler.Cleanup
import PersonTracking.Scheduler.Outcome
import PersonTracking.Scheduler.Retention
import PersonTracking.Scheduler.Orphans
import PersonTracking.Scheduler.Sightings
import PersonTracking.Scheduler.LastSeen
import PersonTracking.Scheduler.Plans
import PersonTracking.Scheduler.SeenAgain
import PersonTracking.Scheduler.Committed
import PersonTracking.Web.SharedWebSocketClient
import PersonTracking.Web.Values
import PersonTracking.Web.AuthStore
import PersonTracking.Web.FireMap
import PersonTracking.Library.Greedy
import PersonTracking.Library.RunningMax
import PersonTracking.Library.Cosine
import PersonTracking.Contracts.Camera
import PersonTracking.CameraService.RtspAddress
import PersonTracking.CameraService.CreateCamera
import PersonTracking.Gateway.ForwardedFor
import PersonTracking.Gateway.LogBounds
import PersonTracking.AuthService.LoginAnswers
import PersonTracking.CameraService.TestVideo
import PersonTracking.Web.AxiosInstance
import PersonTracking.Web.PersonSearch
import PersonTracking.Gateway.PayloadLimit
import PersonTracking.AiService.StreamManager
import PersonTracking.Web.DecodeJwt
import PersonTracking.Web.AuthCoherence
import PersonTracking.AiService.Bbox
import PersonTracking.Gateway.Sessions
import PersonTracking.AuthService.Registration
import PersonTracking.CameraService.CameraRoutes
import PersonTracking.Analytics.PersonTrail
import PersonTracking.Scheduler.Recurring
import PersonTracking.AiService.CropUploads
import PersonTracking.AiService.Itineraries
import PersonTracking.Web.VideoTest
import PersonTracking.Scheduler.CameraDeletion
import PersonTracking.Analytics.Indexing
import PersonTracking.SearchService.SearchRoutes
import PersonTracking.SearchService.SearchTrails
import PersonTracking.Library.Settling
import PersonTracking.Web.ApiRequests
import PersonTracking.Web.WebSocketStatus
