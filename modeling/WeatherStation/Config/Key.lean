/-!
# `WeatherStation.Config.Key`: what can be configured

Every setting has a key, and every key has a name under which it is stored.
-/

set_option autoImplicit false

namespace WeatherStation.Config

/-- A setting. -/
inductive Key where
  | wifiSsid
  | wifiPassword
  | brokerHost
  | brokerPort
  | pingIntervalSecs
  | maxSilenceMins
  /-- Empty stands for an id made from the hardware address. -/
  | deviceId
  | stationName
  | description
  | timezone
  | latitude
  | longitude
  | publishPeriodMins
  | measurePeriodSecs
  | bootCount
  deriving DecidableEq, Repr, Inhabited

namespace Key

/-- Every key. -/
def all : List Key :=
  [wifiSsid, wifiPassword, brokerHost, brokerPort, pingIntervalSecs, maxSilenceMins, deviceId,
    stationName, description, timezone, latitude, longitude, publishPeriodMins,
    measurePeriodSecs, bootCount]

/-- The name under which the setting is stored. -/
def name : Key → String
  | wifiSsid => "wifi.ssid"
  | wifiPassword => "wifi.password"
  | brokerHost => "mqtt.broker"
  | brokerPort => "mqtt.port"
  | pingIntervalSecs => "mqtt.ping_interval"
  | maxSilenceMins => "mqtt.max_silence"
  | deviceId => "wlab.device_id"
  | stationName => "wlab.name"
  | description => "wlab.description"
  | timezone => "wlab.timezone"
  | latitude => "wlab.latitude"
  | longitude => "wlab.longitude"
  | publishPeriodMins => "wlab.publish_period"
  | measurePeriodSecs => "wlab.measure_period"
  | bootCount => "sys.boot_count"

end Key

end WeatherStation.Config
