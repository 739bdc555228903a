/-!
# Emoji names: t to v
-/

namespace JavaHome.Terminal.Emoji

/-- The names under t to v. -/
def namesTToV : List (String × String) :=
  [("t-rex", "🦖"), ("top_arrow", "🔝"), ("taiwan", "🇹🇼"), ("tajikistan", "🇹🇯"), ("tanzania", "🇹🇿"),
    ("taurus", "♉"), ("thailand", "🇹🇭"), ("timor-leste", "🇹🇱"), ("togo", "🇹🇬"), ("tokelau", "🇹🇰"),
    ("tokyo_tower", "🗼"), ("tonga", "🇹🇴"), ("trinidad_&_tobago", "🇹🇹"), ("tristan_da_cunha", "🇹🇦"),
    ("tunisia", "🇹🇳"), ("turkey", "🦃"), ("turkmenistan", "🇹🇲"), ("turks_&_caicos_islands", "🇹🇨"),
    ("tuvalu", "🇹🇻"), ("u.s._outlying_islands", "🇺🇲"), ("u.s._virgin_islands", "🇻🇮"),
    ("up!_button", "🆙"), ("uganda", "🇺🇬"), ("ukraine", "🇺🇦"), ("united_arab_emirates", "🇦🇪"),
    ("united_kingdom", "🇬🇧"), ("united_nations", "🇺🇳"), ("united_states", "🇺🇸"), ("uruguay", "🇺🇾"),
    ("uzbekistan", "🇺🇿"), ("vs_button", "🆚"), ("vanuatu", "🇻🇺"), ("vatican_city", "🇻🇦"),
    ("venezuela", "🇻🇪"), ("vietnam", "🇻🇳"), ("virgo", "♍"), ("t-shirt", "👕"), ("taco", "🌮"),
    ("takeout_box", "🥡"), ("tanabata_tree", "🎋"), ("tangerine", "🍊"), ("taxi", "🚕"),
    ("teacup_without_handle", "🍵"), ("tear-off_calendar", "📆"), ("teddy_bear", "🧸"),
    ("telephone", "☎"), ("telephone_receiver", "📞"), ("telescope", "🔭"), ("television", "📺"),
    ("ten-thirty", "🕥"), ("ten_o’clock", "🕙"), ("tennis", "🎾"), ("tent", "⛺"), ("test_tube", "🧪"),
    ("thermometer", "🌡"), ("thinking_face", "🤔"), ("thought_balloon", "💭"), ("thread", "🧵"),
    ("three-thirty", "🕞"), ("three_o’clock", "🕒"), ("thumbs_down", "👎"),
    ("thumbs_down_dark_skin_tone", "👎🏿"), ("thumbs_down_light_skin_tone", "👎🏻"),
    ("thumbs_down_medium-dark_skin_tone", "👎🏾"), ("thumbs_down_medium-light_skin_tone", "👎🏼"),
    ("thumbs_down_medium_skin_tone", "👎🏽"), ("thumbs_up", "👍"), ("thumbs_up_dark_skin_tone", "👍🏿"),
    ("thumbs_up_light_skin_tone", "👍🏻"), ("thumbs_up_medium-dark_skin_tone", "👍🏾"),
    ("thumbs_up_medium-light_skin_tone", "👍🏼"), ("thumbs_up_medium_skin_tone", "👍🏽"),
    ("ticket", "🎫"), ("tiger", "🐯"), ("tiger_face", "🐯"), ("timer_clock", "⏲"), ("tired_face", "😫"),
    ("toolbox", "🧰"), ("toilet", "🚽"), ("tomato", "🍅"), ("tongue", "👅"), ("tooth", "🦷"),
    ("top_hat", "🎩"), ("tornado", "🌪"), ("trackball", "🖲"), ("tractor", "🚜"), ("trade_mark", "™"),
    ("train", "🚋"), ("tram", "🚊"), ("tram_car", "🚋"), ("triangular_flag", "🚩"),
    ("triangular_ruler", "📐"), ("trident_emblem", "🔱"), ("trolleybus", "🚎"), ("trophy", "🏆"),
    ("tropical_drink", "🍹"), ("tropical_fish", "🐠"), ("trumpet", "🎺"), ("tulip", "🌷"),
    ("tumbler_glass", "🥃"), ("turtle", "🐢"), ("twelve-thirty", "🕧"), ("twelve_o’clock", "🕛"),
    ("two-hump_camel", "🐫"), ("two-thirty", "🕝"), ("two_hearts", "💕"),
    ("two_men_holding_hands", "👬"), ("two_o’clock", "🕑"), ("two_women_holding_hands", "👭"),
    ("umbrella", "☂"), ("umbrella_on_ground", "⛱"), ("umbrella_with_rain_drops", "☔"),
    ("unamused_face", "😒"), ("unicorn_face", "🦄"), ("unlocked", "🔓"), ("up-down_arrow", "↕"),
    ("up-left_arrow", "↖"), ("up-right_arrow", "↗"), ("up_arrow", "⬆"), ("upside-down_face", "🙃"),
    ("upwards_button", "🔼"), ("vampire", "🧛"), ("vampire_dark_skin_tone", "🧛🏿"),
    ("vampire_light_skin_tone", "🧛🏻"), ("vampire_medium-dark_skin_tone", "🧛🏾"),
    ("vampire_medium-light_skin_tone", "🧛🏼"), ("vampire_medium_skin_tone", "🧛🏽"),
    ("vertical_traffic_light", "🚦"), ("vibration_mode", "📳"), ("victory_hand", "✌"),
    ("victory_hand_dark_skin_tone", "✌🏿"), ("victory_hand_light_skin_tone", "✌🏻"),
    ("victory_hand_medium-dark_skin_tone", "✌🏾"), ("victory_hand_medium-light_skin_tone", "✌🏼"),
    ("victory_hand_medium_skin_tone", "✌🏽"), ("video_camera", "📹"), ("video_game", "🎮"),
    ("videocassette", "📼"), ("violin", "🎻"), ("volcano", "🌋"), ("volleyball", "🏐"),
    ("vulcan_salute", "🖖"), ("vulcan_salute_dark_skin_tone", "🖖🏿"),
    ("vulcan_salute_light_skin_tone", "🖖🏻"), ("vulcan_salute_medium-dark_skin_tone", "🖖🏾"),
    ("vulcan_salute_medium-light_skin_tone", "🖖🏼"), ("vulcan_salute_medium_skin_tone", "🖖🏽"),
    ("truck", "🚚"), ("triumph", "😤"), ("traffic_light", "🚥"), ("ten", "🔟"), ("two", "2️⃣"),
    ("three", "3️⃣"), ("underage", "🔞"), ("unlock", "🔓"), ("tada", "🎉"), ("u5272", "🈹"),
    ("u5408", "🈴"), ("u55b6", "🈺"), ("u6307", "🈯"), ("u6708", "🈷"), ("u6709", "🈶"), ("u6e80", "🈵"),
    ("u7121", "🈚"), ("u7533", "🈸"), ("u7981", "🈲"), ("u7a7a", "🈳"), ("up", "🆙"), ("vs", "🆚"),
    ("tshirt", "👕"), ("table_tennis_paddle_and_ball", "🏓"), ("tea", "🍵"), ("tv", "📺"),
    ("three_button_mouse", "🖱"), ("thumbsup", "👍"), ("thumbsdown", "👎"),
    ("thunder_cloud_and_rain", "⛈"), ("tiger2", "🐅"), ("tophat", "🎩"), ("top", "🔝"), ("tm", "™"),
    ("train2", "🚆"), ("triangular_flag_on_post", "🚩"), ("trident", "🔱"),
    ("twisted_rightwards_arrows", "🔀"), ("unamused", "😒"), ("upside__down_face", "🙃"), ("v", "✌"),
    ("vhs", "📼")]

end JavaHome.Terminal.Emoji
